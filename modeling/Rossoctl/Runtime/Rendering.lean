import Rossoctl.Runtime.Validator
import Rossoctl.Webhook.PresetPipeline

/-!
# What is admitted and what can be rendered

The plugins of a runtime are read twice: by `ValidatePlugins`, when the runtime is admitted, and by
`synthesizePresetPipeline`, when a pod of its workload is. The two have parsers and lists of plugins
of their own. They agree on the tokens (`Rossoctl.Runtime.parse_of_validatePlugin`), but that
`token-exchange` and `token-broker` exclude each other only the second knows, and the documentation
of the field promises it of the first. `Rossoctl.Runtime.rendered_iff` says which admitted runtimes
can be rendered.
-/

namespace Rossoctl.Runtime

open Kube Webhook List

/-! ### The two parsers -/

/-- A token, as `ValidatePlugins` reads it. -/
def tokenOf (tok : String) : String × String := splitToken (trimSpace tok)

theorem cutToken_eq_splitToken (t : String) : cutToken t = splitToken t := by
  rw [cutToken, splitToken]
  cases hidx : t.toList.findIdx? (· = ':') with
  | none =>
    have hnot := findIdx?_eq_none_iff.mp hidx
    rw [if_neg fun hmem => by simpa using hnot ':' hmem]
    rfl
  | some idx =>
    obtain ⟨hlt, hfirst⟩ := findIdx?_eq_some_iff_findIdx_eq.mp hidx
    have hmem : ':' ∈ t.toList := by
      have hbound : t.toList.findIdx (fun c : Char => decide (c = ':')) < t.toList.length :=
        hfirst.symm ▸ hlt
      have hget := findIdx_getElem (w := hbound)
      exact of_decide_eq_true hget ▸ getElem_mem _
    have hsplit : t.toList.findIdx (fun c => !decide (c ≠ ':')) = idx := by
      rw [← hfirst]
      congr 1
      funext c
      by_cases hc : c = ':' <;> simp [hc]
    rw [if_pos hmem, takeWhile_eq_take_findIdx_not, dropWhile_eq_drop_findIdx_not,
      hsplit, tail_drop]

theorem forM_validatePlugin_ok {tokens : List String} (h : tokens.forM validatePlugin = .ok ()) :
    ∀ tok ∈ tokens, validatePlugin tok = .ok () := by
  induction tokens with
  | nil => exact fun tok htok => absurd htok not_mem_nil
  | cons t tokens ih =>
    change (validatePlugin t >>= fun _ => tokens.forM validatePlugin) = _ at h
    cases hfirst : validatePlugin t with
    | error e =>
      rw [hfirst] at h
      cases h
    | ok u =>
      rw [hfirst] at h
      intro tok htok
      obtain rfl | htok := mem_cons.mp htok
      · exact hfirst
      · exact ih h tok htok

/-- **A token that is valid is parsed**, and to the same. -/
theorem parse_of_validatePlugin {tok : String} (h : validatePlugin tok = .ok ()) :
    parsePluginPolicyToken tok = .ok (tokenOf tok) ∧
      (tokenOf tok).1 ∈ inboundOrder ++ outboundOrder := by
  have hplugins : ∀ name ∈ supportedAuthBridgePlugins,
      name ≠ "" ∧ name ∈ inboundOrder ++ outboundOrder := by decide
  rw [validatePlugin] at h
  split at h
  · cases h
  · rename_i hempty
    dsimp only at h
    split at h
    · cases h
    · rename_i hname
      split at h
      · cases h
      · rename_i hpolicy
        obtain ⟨hne, horder⟩ := hplugins _ (not_not.mp hname)
        refine ⟨?_, horder⟩
        rw [parsePluginPolicyToken, if_neg hempty, cutToken_eq_splitToken]
        dsimp only
        have hsupported : (splitToken (trimSpace tok)).2 ∈ supportedPolicies := not_not.mp hpolicy
        rw [if_neg hne, if_neg (not_not.mpr hsupported), tokenOf]

/-! ### Admitted and rendered -/

/-- The values that the schema of the resource allows. -/
structure SchemaValid (rt : AgentRuntime) : Prop where
  pluginPreset : rt.pluginPreset ∈ ["", "auth-only", "ibac-only", "full"]
  onError : rt.onError ∈ ["", "enforce", "observe", "off"]

/-- **The runtime can be rendered** on every base pipeline, with the policies of its tokens. -/
def Renders (rt : AgentRuntime) : Prop :=
  rt.pluginPreset ≠ "" → ∀ base ibac, ∃ pipeline warnings,
    synthesizePresetPipeline base rt.pluginPreset rt.plugins rt.onError ibac =
        .ok (pipeline, warnings) ∧
      ∀ plugin policy, lastNamed tokenOf rt.plugins plugin = some policy →
        renderedPolicy pipeline plugin = some policy

/-- The runtime has `token-exchange` on: by the last token that names it or, without one, by its
preset. -/
def ExchangeOn (rt : AgentRuntime) : Prop :=
  match lastNamed tokenOf rt.plugins pluginTokenExchange with
  | some policy => policy ≠ policyOff
  | none => rt.pluginPreset ≠ "ibac-only" ∧ rt.onError ≠ policyOff

/-- It has `token-broker` on, which is in no preset. -/
def BrokerOn (rt : AgentRuntime) : Prop :=
  match lastNamed tokenOf rt.plugins pluginTokenBroker with
  | some policy => policy ≠ policyOff
  | none => False

/-- **A runtime that activates both.** -/
def ActivatesBoth (rt : AgentRuntime) : Prop :=
  rt.pluginPreset ≠ "" ∧ ExchangeOn rt ∧ BrokerOn rt

instance (rt : AgentRuntime) : Decidable (ExchangeOn rt) := by
  unfold ExchangeOn
  split <;> infer_instance

instance (rt : AgentRuntime) : Decidable (BrokerOn rt) := by
  unfold BrokerOn
  split <;> infer_instance

instance (rt : AgentRuntime) : Decidable (ActivatesBoth rt) :=
  inferInstanceAs (Decidable (_ ∧ _ ∧ _))

variable {rt : AgentRuntime}

theorem validatePlugins_of_validate {reader : Option RuntimeReader} {name : NamespacedName}
    (h : validateCreate reader name rt = .ok ()) : validatePlugins rt = .ok () := by
  rw [validateCreate, validate] at h
  cases hdup : checkDuplicateTargetRef reader name rt with
  | error e =>
    rw [hdup] at h
    cases h
  | ok u =>
    rw [hdup] at h
    cases hbridge : checkTLSBridgeCompatibleWithMode rt with
    | error e =>
      rw [hbridge] at h
      cases h
    | ok u' =>
      rw [hbridge] at h
      exact h

/-- **What rendering comes to**, for a runtime with a preset and valid tokens. -/
theorem synthesize_of_valid (hvalid : validatePlugins rt = .ok ()) (hschema : SchemaValid rt)
    (hpreset : rt.pluginPreset ≠ "") :
    ∃ resolved, (∀ name ∈ inboundOrder ++ outboundOrder, ∀ policy,
        lastNamed tokenOf rt.plugins name = some policy → policyIn resolved name = policy) ∧
      resolvePolicies rt.pluginPreset rt.plugins rt.onError =
        if ExchangeOn rt ∧ BrokerOn rt then
          .error ("token-exchange and token-broker are mutually exclusive on the outbound " ++
            "chain; both were selected (non-off)")
        else .ok resolved := by
  rw [validatePlugins, if_neg hpreset] at hvalid
  have htokens := fun tok htok => parse_of_validatePlugin (forM_validatePlugin_ok hvalid tok htok)
  have hdefault : rt.onError = "" ∨ rt.onError ∈ supportedPolicies :=
    mem_cons.mp hschema.onError
  obtain ⟨members, hmembers, hexchange, hbroker⟩ : ∃ members,
      presetMembership rt.pluginPreset = some members ∧
        (pluginTokenExchange ∈ members ↔ rt.pluginPreset ≠ "ibac-only") ∧
        pluginTokenBroker ∉ members := by
    have hthree := (mem_cons.mp hschema.pluginPreset).resolve_left hpreset
    generalize rt.pluginPreset = preset at hthree
    revert preset
    simp only [forall_mem_cons]
    exact ⟨⟨_, rfl, by decide, by decide⟩, ⟨_, rfl, by decide, by decide⟩,
      ⟨_, rfl, by decide, by decide⟩, fun _ h => absurd h not_mem_nil⟩
  obtain ⟨resolved, hpolicies, hresolve⟩ := resolvePolicies_of_parsed hmembers hdefault
    (fun tok htok => (htokens tok htok).1) fun tok htok => (htokens tok htok).2
  have hmember : orElse rt.onError policyEnforce ≠ policyOff ↔ rt.onError ≠ policyOff := by
    rw [orElse]
    split
    · rename_i hempty
      rw [hempty]
      decide
    · rfl
  have hon : policyIn resolved pluginTokenExchange ≠ policyOff ↔ ExchangeOn rt := by
    rw [hpolicies _ (by decide), settledPolicy, ExchangeOn]
    cases lastNamed tokenOf rt.plugins pluginTokenExchange with
    | some policy => rfl
    | none =>
      rw [Option.getD_none, ← hexchange, ← hmember]
      by_cases hmem : pluginTokenExchange ∈ members
      · rw [if_pos hmem, and_iff_right hmem]
      · rw [if_neg hmem]
        exact iff_of_false (not_not.mpr rfl) fun h => hmem h.1
  have hon' : policyIn resolved pluginTokenBroker ≠ policyOff ↔ BrokerOn rt := by
    rw [hpolicies _ (by decide), settledPolicy, BrokerOn]
    cases lastNamed tokenOf rt.plugins pluginTokenBroker with
    | some policy => rfl
    | none =>
      rw [Option.getD_none, if_neg hbroker]
      exact iff_of_false (not_not.mpr rfl) id
  refine ⟨resolved, fun name hname policy hlast => ?_, ?_⟩
  · rw [hpolicies name hname, settledPolicy, hlast, Option.getD_some]
  · rw [hresolve]
    exact if_congr (and_congr hon hon') rfl rfl

theorem synthesize_error {e : String}
    (h : resolvePolicies rt.pluginPreset rt.plugins rt.onError = .error e) (base : Option Members)
    (ibac : IBACConfig) :
    synthesizePresetPipeline base rt.pluginPreset rt.plugins rt.onError ibac = .error e := by
  rw [synthesizePresetPipeline, h]

theorem synthesize_ok {resolved : StringMap}
    (h : resolvePolicies rt.pluginPreset rt.plugins rt.onError = .ok resolved)
    (base : Option Members) (ibac : IBACConfig) :
    ∃ warnings, synthesizePresetPipeline base rt.pluginPreset rt.plugins rt.onError ibac =
      .ok (buildPipeline resolved (indexPipelineConfigs base) ibac, warnings) := by
  rw [synthesizePresetPipeline, h]
  exact ⟨_, rfl⟩

theorem mem_order_of_lastNamed (hvalid : validatePlugins rt = .ok ())
    (hpreset : rt.pluginPreset ≠ "") {plugin policy : String}
    (h : lastNamed tokenOf rt.plugins plugin = some policy) :
    plugin ∈ inboundOrder ++ outboundOrder := by
  rw [validatePlugins, if_neg hpreset] at hvalid
  obtain ⟨tok, hfind, -⟩ := Option.map_eq_some_iff.mp h
  have hmem := mem_reverse.mp (mem_of_find?_eq_some hfind)
  have hname : (tokenOf tok).1 = plugin := by simpa using find?_some hfind
  rw [← hname]
  exact (parse_of_validatePlugin (forM_validatePlugin_ok hvalid tok hmem)).2

/-- A mutator that renders presets with `synthesizePresetPipeline`. -/
def RendersWith (m : PodMutator) (ibac : IBACConfig) : Prop :=
  ∀ base preset plugins onError, m.presetPipeline base preset plugins onError =
    (synthesizePresetPipeline base preset plugins onError ibac).map fun out => .obj out.1

/-- **Which admitted runtimes are rendered**: those that do not activate both token plugins. For the
others, every admission of a pod fails, whatever the configuration of its namespace is. -/
theorem rendered_iff {reader : Option RuntimeReader} {name : NamespacedName} {rt : AgentRuntime}
    (hadmitted : validateCreate reader name rt = .ok ()) (hschema : SchemaValid rt) :
    (Renders rt ↔ ¬ActivatesBoth rt) ∧ ∀ m ibac, RendersWith m ibac → ∀ ns crName cfg,
        (∃ e, m.withPreset ns crName (some rt.toAgentRuntime) cfg = .error e) ↔
          ActivatesBoth rt := by
  have hvalid := validatePlugins_of_validate hadmitted
  by_cases hpreset : rt.pluginPreset = ""
  · have hnot : ¬ActivatesBoth rt := fun h => h.1 hpreset
    refine ⟨iff_of_true (fun h => absurd hpreset h) hnot, fun m ibac _ ns crName cfg => ?_⟩
    refine iff_of_false ?_ hnot
    rintro ⟨e, he⟩
    rw [PodMutator.withPreset, if_pos hpreset] at he
    cases he
  · obtain ⟨resolved, hpolicies, hresolve⟩ := synthesize_of_valid hvalid hschema hpreset
    by_cases hboth : ExchangeOn rt ∧ BrokerOn rt
    · rw [if_pos hboth] at hresolve
      have hactive : ActivatesBoth rt := ⟨hpreset, hboth⟩
      refine ⟨iff_of_false (fun h => ?_) (not_not.mpr hactive), fun m ibac hm ns crName cfg =>
        iff_of_true ?_ hactive⟩
      · obtain ⟨pipeline, warnings, hok, -⟩ := h hpreset none {}
        rw [synthesize_error hresolve] at hok
        cases hok
      · rw [PodMutator.withPreset, if_neg hpreset, hm, synthesize_error hresolve]
        exact ⟨_, rfl⟩
    · rw [if_neg hboth] at hresolve
      have hnot : ¬ActivatesBoth rt := fun h => hboth h.2
      refine ⟨iff_of_true (fun _ base ibac => ?_) hnot, fun m ibac hm ns crName cfg =>
        iff_of_false ?_ hnot⟩
      · obtain ⟨warnings, hok⟩ := synthesize_ok hresolve base ibac
        refine ⟨_, warnings, hok, fun plugin policy hlast => ?_⟩
        have horder := mem_order_of_lastNamed hvalid hpreset hlast
        rw [renderedPolicy_buildPipeline horder, hpolicies plugin horder policy hlast]
      · rintro ⟨e, he⟩
        obtain ⟨warnings, hok⟩ :=
          synthesize_ok hresolve ((getKey cfg "pipeline").bind asMap) ibac
        rw [PodMutator.withPreset, if_neg hpreset, hm, hok] at he
        cases he

/-- A runtime with a preset and tokens. -/
def presetRuntime (preset : String) (plugins : List String) (onError : String) : AgentRuntime where
  toAgentRuntimeResource := { weatherRuntime "weather" "proxy-sidecar" with
    pluginPreset := preset
    plugins := plugins
    onError := onError }
  targetAPIVersion := "apps/v1"

/-- The broker in place of the exchange: the later of two tokens counts. -/
theorem rendered_broker : Renders (presetRuntime "full"
      ["token-exchange", " token-broker : observe ", "token-exchange:off"] "enforce") :=
  have hadmitted : validateCreate none ⟨"team", "weather"⟩ (presetRuntime "full"
      ["token-exchange", " token-broker : observe ", "token-exchange:off"] "enforce") = .ok () := by
    decide +kernel
  (rendered_iff hadmitted ⟨by decide +kernel, by decide +kernel⟩).1.mpr (by decide +kernel)

/-- **A broker beside the exchange is admitted**, and then no pod is: rendering fails on every base
pipeline. -/
theorem both_admitted :
    validateCreate none ⟨"team", "weather"⟩ (presetRuntime "full" ["token-broker"] "") = .ok () ∧
      SchemaValid (presetRuntime "full" ["token-broker"] "") ∧
      ∀ base ibac, synthesizePresetPipeline base "full" ["token-broker"] "" ibac =
        .error ("token-exchange and token-broker are mutually exclusive on the outbound " ++
          "chain; both were selected (non-off)") := by
  have hresolve : resolvePolicies (presetRuntime "full" ["token-broker"] "").pluginPreset
      (presetRuntime "full" ["token-broker"] "").plugins
      (presetRuntime "full" ["token-broker"] "").onError = .error
        ("token-exchange and token-broker are mutually exclusive on the outbound " ++
          "chain; both were selected (non-off)") := by rfl
  refine ⟨by rfl, ⟨by decide +kernel, by decide +kernel⟩, fun base ibac => ?_⟩
  exact synthesize_error hresolve base ibac

end Rossoctl.Runtime
