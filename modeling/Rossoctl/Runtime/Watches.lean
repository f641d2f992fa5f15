import Rossoctl.Runtime.ConfigHash

/-!
# Which edits of the configuration are noticed

The hash of the configuration is computed from ConfigMaps, and a runtime is reconciled anew when
one of them changes: `mapConfigMapToAgentRuntimes`
(`internal/controller/agentruntime_controller.go`) says for a ConfigMap whose runtimes that are.
The two functions have to agree on the ConfigMaps that count.

They agree on all but one. `spiffe-helper-config` goes into the hash and is not watched, so a
change of it is noticed only if the ConfigMap happens to have the label of defaults
(`Rossoctl.Runtime.noticed_iff`).
-/

namespace Rossoctl.Runtime

open Kube Webhook List Bool

/-! ### The mapper -/

/-- What the mapper goes by: the namespace of the cluster's defaults, and the runtimes there are. -/
structure ConfigWatcher where
  clusterDefaultsNamespace : String
  agentRuntimes : List NamespacedName

/-- The label of defaults. -/
def ConfigMapObject.isNsDefaults (cm : ConfigMapObject) : Bool :=
  cm.labels.lookup labelNamespaceDefaults = some "true"

namespace ConfigWatcher

variable (m : ConfigWatcher)

/-- `mapClusterConfigMapToAgentRuntimes`; no requests are `nil`. -/
def mapClusterConfigMapToAgentRuntimes (name : NamespacedName) : List NamespacedName :=
  if name.ns ≠ m.clusterDefaultsNamespace then []
  else if name.name ≠ clusterDefaultsConfigMapName ∧
      name.name ≠ clusterFeatureGatesConfigMapName then []
  else m.agentRuntimes

/-- `mapNamespaceConfigMapToAgentRuntimes`: by label, or by one name. -/
def mapNamespaceConfigMapToAgentRuntimes (name : NamespacedName) (cm : ConfigMapObject) :
    List NamespacedName :=
  let isAuthBridgeRuntime : Bool := name.name = authBridgeRuntimeConfigMapName
  if !cm.isNsDefaults && !isAuthBridgeRuntime then []
  else m.agentRuntimes.filter fun rt => rt.ns = name.ns

/-- The mapping that is registered: that of the cluster first. -/
def mapConfigMapToAgentRuntimes (name : NamespacedName) (cm : ConfigMapObject) :
    List NamespacedName :=
  if m.mapClusterConfigMapToAgentRuntimes name ≠ [] then
    m.mapClusterConfigMapToAgentRuntimes name
  else m.mapNamespaceConfigMapToAgentRuntimes name cm

/-- **The requests of a change** of one ConfigMap: the mapper is applied to what was there and to
what is there now. -/
def enqueued (cms : ConfigMaps) (name : NamespacedName) (new : Option ConfigMapObject) :
    List NamespacedName :=
  ((cms.lookup name).toList ++ new.toList).flatMap (m.mapConfigMapToAgentRuntimes name)

variable {m} {name rt : NamespacedName} {cm : ConfigMapObject}

/-- The runtimes of a namespace for which the mapper gives requests. -/
theorem mem_mapConfigMap (hrt : rt ∈ m.agentRuntimes) : rt ∈ m.mapConfigMapToAgentRuntimes name cm ↔
      (name.ns = m.clusterDefaultsNamespace ∧ (name.name = clusterDefaultsConfigMapName ∨
          name.name = clusterFeatureGatesConfigMapName)) ∨
        rt.ns = name.ns ∧
          (cm.isNsDefaults = true ∨ name.name = authBridgeRuntimeConfigMapName) := by
  have hne : m.agentRuntimes ≠ [] := ne_nil_of_mem hrt
  have hcluster : m.mapClusterConfigMapToAgentRuntimes name =
      if name.ns = m.clusterDefaultsNamespace ∧ (name.name = clusterDefaultsConfigMapName ∨
        name.name = clusterFeatureGatesConfigMapName) then m.agentRuntimes else [] := by
    rw [mapClusterConfigMapToAgentRuntimes]
    split_ifs <;> tauto
  have hnamespace : rt ∈ m.mapNamespaceConfigMapToAgentRuntimes name cm ↔
      rt.ns = name.ns ∧ (cm.isNsDefaults = true ∨ name.name = authBridgeRuntimeConfigMapName) := by
    rw [mapNamespaceConfigMapToAgentRuntimes]
    split
    · rename_i h
      simp only [and_eq_true, not_eq_true', decide_eq_false_iff_not] at h
      simp [h.1, h.2]
    · rename_i h
      simp only [and_eq_true, not_eq_true', decide_eq_false_iff_not] at h
      rw [mem_filter, decide_eq_true_eq]
      refine ⟨fun hmem => ⟨hmem.2, ?_⟩, fun hmem => ⟨hrt, hmem.1⟩⟩
      by_contra hnot
      obtain ⟨hdefaults, hname⟩ := not_or.mp hnot
      exact h ⟨eq_false_iff.mpr hdefaults, hname⟩
  rw [mapConfigMapToAgentRuntimes, hcluster]
  by_cases h : name.ns = m.clusterDefaultsNamespace ∧
      (name.name = clusterDefaultsConfigMapName ∨ name.name = clusterFeatureGatesConfigMapName)
  · rw [if_pos h, if_pos hne]
    exact iff_of_true hrt (.inl h)
  · rw [if_neg h, if_neg (not_not.mpr rfl), hnamespace, or_iff_right h]

end ConfigWatcher

/-! ### What a change of one ConfigMap changes -/

/-- Without the value of a key a filter that it does not pass comes to the same. -/
theorem filter_kerase {α : Type} {β : α → Type} [DecidableEq α] {p : Sigma β → Bool} {k : α}
    {l : List (Sigma β)} (h : ∀ e ∈ l, e.1 = k → p e = false) :
    (l.kerase k).filter p = l.filter p := by
  induction l with
  | nil => rfl
  | cons e l ih =>
    obtain ⟨he, hl⟩ := forall_mem_cons.mp h
    by_cases hk : k = e.1
    · rw [kerase_cons_eq hk, filter_cons_of_neg (by simp [he hk.symm])]
    · rw [kerase_cons_ne hk, filter_cons, filter_cons, ih hl]

variable {cms : ConfigMaps}

/-- **The defaults of a namespace** are the same ConfigMaps, unless the one that changes is or was
one of them. -/
theorem labelledDefaults_put {name : NamespacedName} {new : Option ConfigMapObject} {ns : String}
    (h : name.ns = ns → ∀ cm ∈ (cms.lookup name).toList ++ new.toList, cm.isNsDefaults = false) :
    labelledDefaults (put cms name new) ns = labelledDefaults cms ns := by
  have hentries (l : List (Sigma fun _ : NamespacedName => ConfigMapObject)) :
      (l.map fun e => (e.1, e.2)).filter (fun e =>
          decide (e.1.ns = ns ∧ e.2.labels.lookup labelNamespaceDefaults = some "true")) =
        (l.filter fun e => decide (e.1.ns = ns) && e.2.isNsDefaults).map fun e => (e.1, e.2) := by
    rw [filter_map]
    congr 1
    refine filter_congr fun e _ => ?_
    rw [Function.comp_apply, ConfigMapObject.isNsDefaults, decide_and]
  have hold : ∀ e ∈ cms.entries, e.1 = name →
      (decide (e.1.ns = ns) && e.2.isNsDefaults) = false := by
    rintro ⟨k, cm⟩ hmem rfl
    by_cases hns : k.ns = ns
    · rw [h hns cm (by simp [GoMap.mem_entries_iff.mp hmem]), Bool.and_false]
    · simp [hns]
  rw [labelledDefaults, labelledDefaults, hentries, hentries]
  congr 1
  cases new with
  | none => exact filter_kerase hold
  | some cm =>
    change List.filter _ (⟨name, cm⟩ :: cms.entries.kerase name) = _
    rw [filter_cons_of_neg, filter_kerase hold]
    by_cases hns : name.ns = ns
    · simp [h hns cm (by simp)]
    · simp [hns]

theorem storedData_put {name name' : NamespacedName} {new : Option ConfigMapObject}
    (h : name' = name → cms.lookup name = new) :
    storedData (put cms name new) name' = storedData cms name' := by
  rw [storedData, storedData, lookup_put]
  split
  · rename_i heq
    rw [heq, h heq]
  · rfl

/-- **What the hash is computed from.** -/
theorem computeConfigHash_congr (digest : List Char → String) {cms' : ConfigMaps}
    {clusterNs ns : String}
    (hgates : storedData cms' ⟨clusterNs, clusterFeatureGatesConfigMapName⟩ =
      storedData cms ⟨clusterNs, clusterFeatureGatesConfigMapName⟩)
    (hcluster : storedData cms' ⟨clusterNs, clusterDefaultsConfigMapName⟩ =
      storedData cms ⟨clusterNs, clusterDefaultsConfigMapName⟩)
    (hdefaults : labelledDefaults cms' ns = labelledDefaults cms ns)
    (hruntime : storedData cms' ⟨ns, authBridgeRuntimeConfigMapName⟩ =
      storedData cms ⟨ns, authBridgeRuntimeConfigMapName⟩)
    (hhelper : valueOf (storedData cms' ⟨ns, spiffeHelperConfigMapName⟩) "helper.conf" =
      valueOf (storedData cms ⟨ns, spiffeHelperConfigMapName⟩) "helper.conf") :
    computeConfigHash digest ⟨cms', fun _ => false⟩ clusterNs ns =
      computeConfigHash digest ⟨cms, fun _ => false⟩ clusterNs ns := by
  have hdata (cms : ConfigMaps) (ns name : String) :
      readConfigMapData ⟨cms, fun _ => false⟩ ns name = storedData cms ⟨ns, name⟩ :=
    (readConfigMapData_eq _ ns name).trans (if_neg Bool.false_ne_true)
  have hlist : Reader.list ⟨cms', fun _ => false⟩ ns = Reader.list ⟨cms, fun _ => false⟩ ns :=
    congrArg Except.ok hdefaults
  have hns : readNamespaceDefaults ⟨cms', fun _ => false⟩ ns =
      readNamespaceDefaults ⟨cms, fun _ => false⟩ ns := by
    rw [readNamespaceDefaults, readNamespaceDefaults, hlist]
  have hresolved : resolveConfig ⟨cms', fun _ => false⟩ clusterNs ns =
      resolveConfig ⟨cms, fun _ => false⟩ clusterNs ns := by
    simp only [resolveConfig, hdata, hns, hgates, hcluster, hruntime, hhelper]
  rw [computeConfigHash, computeConfigHash, hresolved]

/-! ### Changes that are missed -/

/-- The value of a key in a ConfigMap that may be missing. -/
def configValue (cm : Option ConfigMapObject) (key : String) : String :=
  valueOf ((cm.bind (·.data)).getD ∅) key

/-- **A change that is missed**: the helper's configuration in a namespace with runtimes gets
another value, and its ConfigMap neither was nor is labelled as defaults. -/
structure ConfigWatcher.Missed (m : ConfigWatcher) (cms : ConfigMaps) (name : NamespacedName)
    (new : Option ConfigMapObject) (ns : String) : Prop where
  helper : name = ⟨ns, spiffeHelperConfigMapName⟩
  unlabelled : ∀ cm ∈ (cms.lookup name).toList ++ new.toList, cm.isNsDefaults = false
  changed : configValue new "helper.conf" ≠ configValue (cms.lookup name) "helper.conf"
  runtime : ∃ rt ∈ m.agentRuntimes, rt.ns = ns

/-- **A change of one ConfigMap is noticed** – if it changes what `ComputeConfigHash` returns for a
namespace, then requests for all the runtimes of the namespace are made – just if it is not a change
of the helper's configuration that is missed. -/
theorem noticed_iff (digest : List Char → String) (m : ConfigWatcher) (cms : ConfigMaps)
    (name : NamespacedName) (new : Option ConfigMapObject) (ns : String)
    (hdigest : digest (stored (put cms name new) m.clusterDefaultsNamespace ns).text =
        digest (stored cms m.clusterDefaultsNamespace ns).text →
      (stored (put cms name new) m.clusterDefaultsNamespace ns).text =
        (stored cms m.clusterDefaultsNamespace ns).text) :
    (computeConfigHash digest ⟨put cms name new, fun _ => false⟩ m.clusterDefaultsNamespace ns ≠
        computeConfigHash digest ⟨cms, fun _ => false⟩ m.clusterDefaultsNamespace ns →
      ∀ rt ∈ m.agentRuntimes, rt.ns = ns → rt ∈ m.enqueued cms name new) ↔
      ¬ m.Missed cms name new ns := by
  have hput : storedData (put cms name new) name = (new.bind (·.data)).getD ∅ := by
    rw [storedData, lookup_put, if_pos rfl]
  constructor
  · rintro h ⟨hname, hunlabelled, hchanged, rt, hrt, hns⟩
    have hdiffers : computeConfigHash digest ⟨put cms name new, fun _ => false⟩
          m.clusterDefaultsNamespace ns ≠
        computeConfigHash digest ⟨cms, fun _ => false⟩ m.clusterDefaultsNamespace ns := by
      intro heq
      have hhash := congrArg ConfigResult.hash (Except.ok.inj heq)
      rw [resolveConfig_quiet, resolveConfig_quiet] at hhash
      have hsame := (ResolvedConfig.text_eq_iff.mp (hdigest hhash)).spiffeHelperConfig
      rw [stored, stored, ← hname, hput] at hsame
      exact hchanged hsame
    -- The mapper knows nothing of this name.
    obtain ⟨cm, hcm, hmem⟩ := mem_flatMap.mp (h hdiffers rt hrt hns)
    subst hname
    obtain ⟨-, hcluster | hcluster⟩ | ⟨-, hdefaults | hruntime⟩ :=
      (ConfigWatcher.mem_mapConfigMap hrt).mp hmem
    · exact absurd hcluster
        (show spiffeHelperConfigMapName ≠ clusterDefaultsConfigMapName by decide)
    · exact absurd hcluster
        (show spiffeHelperConfigMapName ≠ clusterFeatureGatesConfigMapName by decide)
    · exact absurd hdefaults (by rw [hunlabelled cm hcm]; exact false_ne_true)
    · exact absurd hruntime
        (show spiffeHelperConfigMapName ≠ authBridgeRuntimeConfigMapName by decide)
  · intro hmissed hdiffers rt hrt hns
    by_contra hnot
    -- Nothing that the mapper knows has changed.
    have hunknown (P : Prop) (hP : P → ∀ cm, rt ∈ m.mapConfigMapToAgentRuntimes name cm) (h : P) :
        cms.lookup name = new := by
      have hnone : ∀ cm, cm ∉ (cms.lookup name).toList ++ new.toList := fun cm hcm =>
        hnot (mem_flatMap.mpr ⟨cm, hcm, hP h cm⟩)
      have hnil := append_eq_nil_iff.mp (eq_nil_iff_forall_not_mem.mpr hnone)
      rw [Option.toList_eq_nil_iff.mp hnil.1, Option.toList_eq_nil_iff.mp hnil.2]
    have hunlabelled (h : name.ns = ns) : ∀ cm ∈ (cms.lookup name).toList ++ new.toList,
        cm.isNsDefaults = false := by
      intro cm hcm
      refine eq_false_iff.mpr fun hdefaults => hnot (mem_flatMap.mpr ⟨cm, hcm, ?_⟩)
      exact (ConfigWatcher.mem_mapConfigMap hrt).mpr (.inr ⟨hns.trans h.symm, .inl hdefaults⟩)
    refine hdiffers (computeConfigHash_congr digest ?_ ?_ (labelledDefaults_put hunlabelled) ?_ ?_)
    · refine storedData_put (hunknown _ fun h cm => ?_)
      rw [← h]
      exact (ConfigWatcher.mem_mapConfigMap hrt).mpr (.inl ⟨rfl, .inr rfl⟩)
    · refine storedData_put (hunknown _ fun h cm => ?_)
      rw [← h]
      exact (ConfigWatcher.mem_mapConfigMap hrt).mpr (.inl ⟨rfl, .inl rfl⟩)
    · refine storedData_put (hunknown _ fun h cm => ?_)
      rw [← h]
      exact (ConfigWatcher.mem_mapConfigMap hrt).mpr (.inr ⟨hns, .inr rfl⟩)
    · by_cases hname : (⟨ns, spiffeHelperConfigMapName⟩ : NamespacedName) = name
      · by_contra hchanged
        refine hmissed ⟨hname.symm, hunlabelled (hname ▸ rfl), ?_, rt, hrt, hns⟩
        rw [hname, hput] at hchanged
        exact hchanged
      · rw [storedData_put fun h => absurd h hname]

/-- A namespace without any ConfigMap gets a configuration for its sidecars. -/
def firstConfig : ConfigMapObject where
  data := some ((∅ : StringMap).insert "config.yaml" "mode: proxy")

theorem noticed_firstConfig : computeConfigHash String.ofList
        ⟨put ∅ ⟨"team", authBridgeRuntimeConfigMapName⟩ (some firstConfig), fun _ => false⟩
        "rossoctl-system" "team" ≠
      computeConfigHash String.ofList ⟨∅, fun _ => false⟩ "rossoctl-system" "team" ∧
    (⟨"team", "weather"⟩ : NamespacedName) ∈
      (⟨"rossoctl-system", [⟨"team", "weather"⟩]⟩ : ConfigWatcher).enqueued ∅
        ⟨"team", authBridgeRuntimeConfigMapName⟩ (some firstConfig) := by
  have hdiffers : computeConfigHash String.ofList
        ⟨put ∅ ⟨"team", authBridgeRuntimeConfigMapName⟩ (some firstConfig), fun _ => false⟩
        "rossoctl-system" "team" ≠
      computeConfigHash String.ofList ⟨∅, fun _ => false⟩ "rossoctl-system" "team" := fun heq =>
    absurd (congrArg (fun result => result.toOption.map ConfigResult.hash) heq) (by decide +kernel)
  refine ⟨hdiffers, ?_⟩
  exact (noticed_iff String.ofList ⟨"rossoctl-system", [⟨"team", "weather"⟩]⟩ ∅
    ⟨"team", authBridgeRuntimeConfigMapName⟩ (some firstConfig) "team"
    fun h => String.ofList_injective h).mpr (fun h => absurd h.helper (by decide)) hdiffers _
    mem_cons_self rfl

/-- **A change that nobody sees**: the helper's configuration of a namespace gets another value, the
hash changes, and no runtime is reconciled. -/
theorem helper_missed :
    let cms : ConfigMaps := (∅ : ConfigMaps).insert ⟨"team", spiffeHelperConfigMapName⟩
      { data := some ((∅ : StringMap).insert "helper.conf" "old") }
    let new : Option ConfigMapObject :=
      some { data := some ((∅ : StringMap).insert "helper.conf" "new") }
    let m : ConfigWatcher := ⟨"rossoctl-system", [⟨"team", "weather"⟩]⟩
    (computeConfigHash String.ofList
        ⟨put cms ⟨"team", spiffeHelperConfigMapName⟩ new, fun _ => false⟩ "rossoctl-system"
          "team").toOption.map ConfigResult.hash ≠
      (computeConfigHash String.ofList ⟨cms, fun _ => false⟩ "rossoctl-system"
        "team").toOption.map ConfigResult.hash ∧
    m.enqueued cms ⟨"team", spiffeHelperConfigMapName⟩ new = [] := by
  decide +kernel

end Rossoctl.Runtime
