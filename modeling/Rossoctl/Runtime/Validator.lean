import Rossoctl.Runtime.Enrolment

/-!
# Which runtimes are admitted

The validating webhook for runtimes (`internal/webhook/v1alpha1/agentruntime_webhook.go`)
stands before every creation and every update. One of its checks is that no other runtime
of the namespace has the same target: the same `apiVersion`, kind and name. Those who use a
runtime look only at the kind and the name – the controller
(`Rossoctl.Runtime.targetOf`) and the injector (`Rossoctl.Webhook.findAgentRuntime`) –, so
two runtimes whose targets differ in the `apiVersion` are two runtimes for one workload.

Runs are those of the controller, with creations and updates only as they are admitted
(`Rossoctl.Runtime.admittedStep`). `Rossoctl.Runtime.uniqueTargets_iff` says in which of
them every workload has at most one runtime.
-/

namespace Rossoctl.Runtime

open Kube Webhook List

/-! ### The checks -/

/-- The runtimes of a namespace, or an error. -/
abbrev RuntimeReader := String → Except String (List (NamespacedName × AgentRuntime))

/-- `checkDuplicateTargetRef`. It lets a runtime pass if it cannot list the others. -/
def checkDuplicateTargetRef (reader : Option RuntimeReader) (name : NamespacedName)
    (rt : AgentRuntime) : Except String Unit :=
  match reader with
  | none => .ok ()
  | some list =>
    match list name.ns with
    | .error _ => .ok ()
    | .ok items =>
      match items.find? fun e => decide (e.1.name ≠ name.name ∧
          e.2.targetAPIVersion = rt.targetAPIVersion ∧ e.2.targetKind = rt.targetKind ∧
          e.2.targetName = rt.targetName) with
      | none => .ok ()
      | some e => .error ("an AgentRuntime already targets " ++ rt.targetKind ++ " " ++
          rt.targetName ++ " in namespace " ++ name.ns ++ ": " ++ e.1.name)

/-- `checkMTLSCompatibleWithMode`: every combination is supported. -/
def checkMTLSCompatibleWithMode (_rt : AgentRuntime) : Except String Unit := .ok ()

/-- `checkTLSBridgeCompatibleWithMode`. -/
def checkTLSBridgeCompatibleWithMode (rt : AgentRuntime) : Except String Unit :=
  if rt.tlsBridgeMode ≠ "enabled" then .ok ()
  else if rt.authBridgeMode ∈ ["", "proxy-sidecar", "lite"] then .ok ()
  else .error ("tlsBridgeMode=enabled requires authBridgeMode proxy-sidecar or lite " ++
    "(the TLS bridge lives in the Go forward proxy); it is not supported with authBridgeMode " ++
    quoted rt.authBridgeMode)

def supportedAuthBridgePlugins : List String :=
  ["a2a-parser", "jwt-validation", "token-exchange", "token-broker", "inference-parser",
    "mcp-parser", "ibac"]

def supportedAuthBridgePolicies : List String := ["enforce", "observe", "off"]

/-- The name and the policy of a token; without a colon it has the policy `enforce`. -/
def splitToken (t : String) : String × String :=
  if ':' ∈ t.toList then
    (trimSpace (String.ofList (t.toList.takeWhile (· ≠ ':'))),
      trimSpace (String.ofList (t.toList.dropWhile (· ≠ ':')).tail))
  else (t, "enforce")

/-- The check of one token of `spec.plugins`. -/
def validatePlugin (tok : String) : Except String Unit :=
  if trimSpace tok = "" then .error "empty plugin override token in spec.plugins"
  else
    let (name, policy) := splitToken (trimSpace tok)
    if name ∉ supportedAuthBridgePlugins then
      .error ("unknown plugin " ++ quoted name ++ " in spec.plugins token " ++ quoted tok)
    else if policy ∉ supportedAuthBridgePolicies then
      .error ("invalid policy " ++ quoted policy ++ " in spec.plugins token " ++ quoted tok ++
        " (want enforce, observe, or off)")
    else .ok ()

/-- `ValidatePlugins`: the tokens count only next to a preset. -/
def validatePlugins (rt : AgentRuntime) : Except String Unit :=
  if rt.pluginPreset = "" then .ok () else rt.plugins.forM validatePlugin

def checkPluginPresetValid (rt : AgentRuntime) : Except String Unit := validatePlugins rt

/-- The checks of a creation and of an update. -/
def validate (reader : Option RuntimeReader) (name : NamespacedName) (rt : AgentRuntime) :
    Except String Unit := do
  checkDuplicateTargetRef reader name rt
  checkMTLSCompatibleWithMode rt
  checkTLSBridgeCompatibleWithMode rt
  checkPluginPresetValid rt

/-- `ValidateCreate`. -/
def validateCreate (reader : Option RuntimeReader) (name : NamespacedName) (rt : AgentRuntime) :
    Except String Unit :=
  validate reader name rt

/-- `ValidateUpdate`: the old object is not looked at. -/
def validateUpdate (reader : Option RuntimeReader) (name : NamespacedName)
    (_old rt : AgentRuntime) : Except String Unit :=
  validate reader name rt

/-! ### Runs -/

/-- The runtimes of a namespace. -/
def Cluster.listRuntimes (cl : Cluster) (ns : String) : List (NamespacedName × AgentRuntime) :=
  (cl.runtimes.entries.map fun e => (e.1, e.2)).filter fun e => decide (e.1.ns = ns)

/-- A reader whose lists succeed. -/
def Cluster.runtimeReader (cl : Cluster) : RuntimeReader := fun ns => .ok (cl.listRuntimes ns)

/-- **What the webhook lets pass.** -/
def admitted (w : World) : Action → Bool
  | .create name spec apiVersion =>
    (validateCreate (some w.cluster.runtimeReader) name
      { spec with targetAPIVersion := apiVersion }).isOk
  | .edit name spec apiVersion =>
    (w.cluster.runtimes.lookup name).all fun old =>
      (validateUpdate (some w.cluster.runtimeReader) name old
        { old with toAgentRuntimeResource := spec, targetAPIVersion := apiVersion }).isOk
  | _ => true

/-- A step, if it is admitted. -/
def admittedStep (r : AgentRuntimeReconciler) (w : World) (a : Action) : Option World :=
  if admitted w a then w.step r a else none

/-! ### Targets -/

/-- The two runtimes have one target, as those who use runtimes see it. -/
def SameTarget (rt rt' : Webhook.AgentRuntime) : Prop :=
  rt.targetKind = rt'.targetKind ∧ rt.targetName = rt'.targetName

/-- **No two runtimes of a namespace have one target.** -/
def Cluster.UniqueTargets (cl : Cluster) : Prop :=
  ∀ name name' rt rt', cl.runtimes.lookup name = some rt → cl.runtimes.lookup name' = some rt' →
    name.ns = name'.ns → SameTarget rt.toAgentRuntime rt'.toAgentRuntime → name = name'

/-- Every other runtime of the namespace with the target names it with this `apiVersion`. -/
def Cluster.OneVersion (cl : Cluster) (name : NamespacedName) (rt : AgentRuntimeResource)
    (apiVersion : String) : Prop :=
  ∀ name' rt', cl.runtimes.lookup name' = some rt' → name'.ns = name.ns → name' ≠ name →
    SameTarget rt'.toAgentRuntime rt.toAgentRuntime → rt'.targetAPIVersion = apiVersion

/-- A submission names its target as others do. -/
def Alike (w : World) : Action → Prop
  | .create name spec apiVersion => w.cluster.OneVersion name spec apiVersion
  | .edit name spec apiVersion => w.cluster.OneVersion name spec apiVersion
  | _ => True

/-- **What an owner may do**: a submission that is admitted names its target as others
do. -/
def NamesAlike (r : AgentRuntimeReconciler) (w : World) (a : Action) : Prop :=
  admittedStep r w a ≠ none → Alike w a

variable {cl : Cluster} {name : NamespacedName} {ns : String}

theorem mem_listRuntimes_iff {e : NamespacedName × AgentRuntime} :
    e ∈ cl.listRuntimes ns ↔ cl.runtimes.lookup e.1 = some e.2 ∧ e.1.ns = ns := by
  rw [Cluster.listRuntimes, mem_filter, decide_eq_true_eq, mem_map]
  refine and_congr_left fun _ => ⟨?_, fun h => ⟨⟨e.1, e.2⟩, GoMap.mem_entries_iff.mpr h, rfl⟩⟩
  rintro ⟨e', he', rfl⟩
  exact GoMap.mem_entries_iff.mp he'

variable {rt : AgentRuntime} {new : AgentRuntime} {r : AgentRuntimeReconciler} {w w' : World}
  {a : Action}

/-- **What the check for duplicates knows**: no other runtime has the target under the same
`apiVersion`. -/
theorem checkDuplicateTargetRef_ok
    (h : checkDuplicateTargetRef (some cl.runtimeReader) name rt = .ok ())
    {name' : NamespacedName} {rt' : AgentRuntime} (hrt' : cl.runtimes.lookup name' = some rt')
    (hns : name'.ns = name.ns) (hne : name' ≠ name)
    (hsame : SameTarget rt'.toAgentRuntime rt.toAgentRuntime) :
    rt'.targetAPIVersion ≠ rt.targetAPIVersion := by
  intro hversion
  rw [checkDuplicateTargetRef, Cluster.runtimeReader] at h
  dsimp only at h
  split at h
  · rename_i hfind
    have hnot := find?_eq_none.mp hfind (name', rt') (mem_listRuntimes_iff.mpr ⟨hrt', hns⟩)
    refine hnot (decide_eq_true ⟨fun hname => hne ?_, hversion, hsame.1, hsame.2⟩)
    exact NamespacedName.mk.injEq .. ▸ ⟨hns, hname⟩
  · cases h

theorem checkDuplicateTargetRef_of_validate {reader : Option RuntimeReader}
    (h : (validate reader name rt).isOk = true) :
    checkDuplicateTargetRef reader name rt = .ok () := by
  cases hcheck : checkDuplicateTargetRef reader name rt with
  | ok => rfl
  | error e =>
    rw [validate, hcheck] at h
    cases h

/-! ### Steps -/

/-- A runtime is put in its place: targets stay unique exactly if no other runtime has its
target. -/
theorem uniqueTargets_put_iff (hunique : cl.UniqueTargets)
    (hkept : (cl.putRuntime name new).runtimes.lookup name = some new) :
    (cl.putRuntime name new).UniqueTargets ↔
      ∀ name' rt', cl.runtimes.lookup name' = some rt' → name'.ns = name.ns → name' ≠ name →
        ¬SameTarget rt'.toAgentRuntime new.toAgentRuntime := by
  have hothers : ∀ {name' : NamespacedName}, name' ≠ name →
      (cl.putRuntime name new).runtimes.lookup name' = cl.runtimes.lookup name' := by
    intro name' hne
    rw [lookup_putRuntime, if_neg hne]
  constructor
  · intro h name' rt' hrt' hns hne hsame
    exact hne (h name' name rt' new ((hothers hne).trans hrt') hkept hns hsame)
  · intro h n n' rt rt' hrt hrt' hns hsame
    by_cases hn : n = name
    · by_cases hn' : n' = name
      · exact hn.trans hn'.symm
      · subst hn
        cases hkept.symm.trans hrt
        exact absurd ⟨hsame.1.symm, hsame.2.symm⟩
          (h n' rt' ((hothers hn').symm.trans hrt') hns.symm hn')
    · rw [hothers hn] at hrt
      by_cases hn' : n' = name
      · subst hn'
        cases hkept.symm.trans hrt'
        exact absurd hsame (h n rt hrt hns hn)
      · exact hunique n n' rt rt' hrt ((hothers hn').symm.trans hrt') hns hsame

theorem Cluster.UniqueTargets.of_specs {cl' : Cluster} (hunique : cl.UniqueTargets)
    (h : ∀ name rt', cl'.runtimes.lookup name = some rt' → ∃ rt, cl.runtimes.lookup name = some rt ∧
      rt'.toAgentRuntimeResource = rt.toAgentRuntimeResource) : cl'.UniqueTargets := by
  intro n n' rt rt' hrt hrt' hns hsame
  obtain ⟨rt₀, hrt₀, hres⟩ := h n rt hrt
  obtain ⟨rt₀', hrt₀', hres'⟩ := h n' rt' hrt'
  rw [hres, hres'] at hsame
  exact hunique n n' rt₀ rt₀' hrt₀ hrt₀' hns hsame

/-- **A submission that is admitted** keeps targets unique exactly if it names its target as
others do. -/
theorem uniqueTargets_submit_iff (hunique : cl.UniqueTargets)
    (hkept : (cl.putRuntime name new).runtimes.lookup name = some new)
    (hcheck : checkDuplicateTargetRef (some cl.runtimeReader) name new = .ok ()) :
    (cl.putRuntime name new).UniqueTargets ↔
      cl.OneVersion name new.toAgentRuntimeResource new.targetAPIVersion := by
  rw [uniqueTargets_put_iff hunique hkept]
  constructor
  · intro h name' rt' hrt' hns hne hsame
    exact absurd hsame (h name' rt' hrt' hns hne)
  · intro h name' rt' hrt' hns hne hsame
    exact checkDuplicateTargetRef_ok hcheck hrt' hns hne hsame (h name' rt' hrt' hns hne hsame)

theorem admitted_of_admittedStep
    (h : admittedStep r w a = some w') : admitted w a = true ∧ w.step r a = some w' := by
  rw [admittedStep] at h
  split at h
  · rename_i hadm
    exact ⟨hadm, h⟩
  · cases h

/-- **The step.** -/
theorem uniqueTargets_step_iff (htidy : w.cluster.Tidy) (hunique : w.cluster.UniqueTargets)
    (h : admittedStep r w a = some w') : w'.cluster.UniqueTargets ↔ NamesAlike r w a := by
  have hpossible : ∀ {p : Prop}, (admittedStep r w a ≠ none → p) ↔ p := by
    rw [h]
    exact ⟨fun hp => hp (by simp), fun hp _ => hp⟩
  rw [NamesAlike, hpossible]
  obtain ⟨hadm, hstep⟩ := admitted_of_admittedStep h
  cases a with
  | create n spec apiVersion =>
    have hcheck := checkDuplicateTargetRef_of_validate hadm
    rw [World.step] at hstep
    split at hstep
    · cases hstep
      exact uniqueTargets_submit_iff hunique (lookup_putRuntime_self rfl) hcheck
    · cases hstep
  | edit n spec apiVersion =>
    obtain ⟨old, hold, rfl⟩ := Option.map_eq_some_iff.mp hstep
    rw [admitted, hold, Option.all_some] at hadm
    have hcheck := checkDuplicateTargetRef_of_validate hadm
    refine uniqueTargets_submit_iff hunique ?_ hcheck
    rw [lookup_putRuntime, if_pos rfl, retained, htidy n old hold, if_neg Bool.false_ne_true]
  | delete n =>
    obtain ⟨old, hold, rfl⟩ := Option.map_eq_some_iff.mp hstep
    refine iff_of_true (hunique.of_specs fun name rt' hrt' => ?_) trivial
    change (w.cluster.putRuntime n _).runtimes.lookup name = some rt' at hrt'
    rw [lookup_putRuntime] at hrt'
    split at hrt'
    · rename_i hname
      subst hname
      obtain rfl := eq_of_retained hrt'
      exact ⟨old, hold, rfl⟩
    · exact ⟨rt', hrt', rfl⟩
  | reconcile n env faults =>
    cases hstep
    refine iff_of_true (hunique.of_specs fun name rt' hrt' => ?_) trivial
    obtain ⟨rt, hrt, hres, -⟩ := (reconciled r w n env faults).specs hrt'
    exact ⟨rt, hrt, hres⟩

/-! ### What does not depend on the order -/

/-- What is found in a list does not depend on its order, if it is unique. -/
theorem find?_eq_of_perm {α : Type} {p : α → Bool} {l l' : List α} (hperm : l.Perm l')
    (hunique : ∀ a ∈ l, ∀ b ∈ l, p a = true → p b = true → a = b) : l.find? p = l'.find? p := by
  cases hl : l.find? p with
  | none =>
    refine (find?_eq_none.mpr fun a ha => ?_).symm
    exact find?_eq_none.mp hl a (hperm.mem_iff.mpr ha)
  | some a =>
    cases hl' : l'.find? p with
    | none =>
      have ha := hperm.mem_iff.mp (mem_of_find?_eq_some hl)
      exact absurd (find?_some hl) (find?_eq_none.mp hl' a ha)
    | some b =>
      rw [hunique a (mem_of_find?_eq_some hl) b
        (hperm.mem_iff.mpr (mem_of_find?_eq_some hl')) (find?_some hl)
        (find?_some hl')]

theorem Cluster.UniqueTargets.eq_of_mem (hunique : cl.UniqueTargets)
    {a b : NamespacedName × AgentRuntime} (ha : a ∈ cl.listRuntimes ns)
    (hb : b ∈ cl.listRuntimes ns) (hsame : SameTarget a.2.toAgentRuntime b.2.toAgentRuntime) :
    a = b := by
  obtain ⟨ha, hans⟩ := mem_listRuntimes_iff.mp ha
  obtain ⟨hb, hbns⟩ := mem_listRuntimes_iff.mp hb
  have hname := hunique a.1 b.1 a.2 b.2 ha hb (hans.trans hbns.symm) hsame
  rw [hname] at ha
  exact Prod.ext hname (Option.some.inj (ha.symm.trans hb))

/-- **The choice of the injector does not depend on the order of the list.** -/
theorem Cluster.UniqueTargets.findAgentRuntime_eq (hunique : cl.UniqueTargets)
    {l l' : List (NamespacedName × AgentRuntime)} (hl : l.Perm (cl.listRuntimes ns))
    (hl' : l'.Perm (cl.listRuntimes ns)) (inj : Webhook.Cluster) (w : Workload) :
    findAgentRuntime { inj with listAgentRuntimes := .ok (l.map (·.2.toAgentRuntime)) } w =
      findAgentRuntime { inj with listAgentRuntimes := .ok (l'.map (·.2.toAgentRuntime)) } w := by
  refine find?_eq_of_perm ((hl.trans hl'.symm).map _) ?_
  rintro _ ha _ hb hpa hpb
  obtain ⟨a, hmem, rfl⟩ := mem_map.mp ha
  obtain ⟨b, hmem', rfl⟩ := mem_map.mp hb
  obtain ⟨hname, hkind⟩ := of_decide_eq_true hpa
  obtain ⟨hname', hkind'⟩ := of_decide_eq_true hpb
  rw [hunique.eq_of_mem (hl.mem_iff.mp hmem) (hl.mem_iff.mp hmem')
    ⟨hkind.trans hkind'.symm, hname.trans hname'.symm⟩]

/-- The name of a kind. -/
def WorkloadKind.kind : WorkloadKind → String
  | deployment => "Deployment"
  | statefulSet => "StatefulSet"
  | sandbox => kindSandbox

theorem kind_of_newRuntimePodTemplateAccessor {kind : String} {k : WorkloadKind}
    (h : newRuntimePodTemplateAccessor kind = some k) : kind = k.kind := by
  rw [newRuntimePodTemplateAccessor] at h
  split_ifs at h with hdeployment hstatefulSet hsandbox
  · exact Option.some.inj h ▸ hdeployment
  · exact Option.some.inj h ▸ hstatefulSet
  · exact Option.some.inj h ▸ hsandbox

/-- **A workload is configured by one runtime at most.** -/
theorem Cluster.UniqueTargets.targets (hunique : cl.UniqueTargets) {name' : NamespacedName}
    {key : WorkloadKey} (h : cl.Targets name key) (h' : cl.Targets name' key) : name = name' := by
  obtain ⟨rt, hrt, hkey⟩ := h
  obtain ⟨rt', hrt', hkey'⟩ := h'
  obtain ⟨kind, hkind, rfl⟩ := Option.map_eq_some_iff.mp hkey
  obtain ⟨kind', hkind', heq⟩ := Option.map_eq_some_iff.mp hkey'
  obtain ⟨rfl, hname⟩ := WorkloadKey.mk.inj heq
  obtain ⟨hns, htarget⟩ := NamespacedName.mk.inj hname
  exact hunique name name' rt rt' hrt hrt' hns.symm
    ⟨(kind_of_newRuntimePodTemplateAccessor hkind).trans
      (kind_of_newRuntimePodTemplateAccessor hkind').symm, htarget.symm⟩

/-- **Unique targets.** In a run of admitted creations and updates – with deletions and
reconciles in between –, no two runtimes of a namespace ever have one target if and only if
every submission that is admitted names its target as others do. Where targets are unique,
a workload is configured by one runtime at most, and the injector finds the same one in
whatever order runtimes are listed. -/
theorem uniqueTargets_iff (r : AgentRuntimeReconciler) {w : World} (htidy : w.cluster.Tidy)
    (hunique : w.cluster.UniqueTargets) (as : List Action) :
    (Guarded (admittedStep r) (NamesAlike r) w as ↔
        ∀ bs w', bs <+: as → run (admittedStep r) w bs = some w' → w'.cluster.UniqueTargets) ∧
      ∀ cl : Cluster, cl.UniqueTargets →
        (∀ name name' key, cl.Targets name key → cl.Targets name' key → name = name') ∧
        ∀ (ns : String) (l l' : List (NamespacedName × AgentRuntime)),
          l.Perm (cl.listRuntimes ns) → l'.Perm (cl.listRuntimes ns) →
          ∀ (inj : Webhook.Cluster) (w : Workload),
          findAgentRuntime { inj with listAgentRuntimes := .ok (l.map (·.2.toAgentRuntime)) } w =
            findAgentRuntime
              { inj with listAgentRuntimes := .ok (l'.map (·.2.toAgentRuntime)) } w := by
  refine ⟨?_, fun cl hcl => ⟨fun _ _ _ h h' => hcl.targets h h', fun _ _ _ hl hl' =>
    hcl.findAgentRuntime_eq hl hl'⟩⟩
  refine guarded_iff_forall_isPrefix_of_invariant (J := fun w => w.cluster.Tidy)
    (fun w a w' htidy h => tidy_step (admitted_of_admittedStep h).2 htidy)
    (fun w a w' htidy hunique h => uniqueTargets_step_iff htidy hunique h) ?_ htidy hunique as
  intro w a h hsome
  exact absurd h hsome

/-! ### Two runtimes for one workload -/

/-- A submission names its target as others do, as a test. -/
def alike (w : World) : Action → Bool
  | .create name spec apiVersion => others name spec apiVersion
  | .edit name spec apiVersion => others name spec apiVersion
  | _ => true
where
  others (name : NamespacedName) (spec : AgentRuntimeResource) (apiVersion : String) : Bool :=
    w.cluster.runtimes.entries.all fun e => decide (e.1.ns = name.ns → e.1 ≠ name →
      e.2.targetKind = spec.targetKind → e.2.targetName = spec.targetName →
      e.2.targetAPIVersion = apiVersion)

theorem oneVersion_of_others {w : World} {spec : AgentRuntimeResource} {apiVersion : String}
    (h : alike.others w name spec apiVersion = true) :
    w.cluster.OneVersion name spec apiVersion := by
  intro name' rt' hrt' hns hne hsame
  have hentry := all_eq_true.mp h ⟨name', rt'⟩ (GoMap.mem_entries_iff.mpr hrt')
  exact of_decide_eq_true hentry hns hne hsame.1 hsame.2

theorem namesAlike_of_alike (r : AgentRuntimeReconciler) (w : World) (a : Action)
    (h : alike w a = true) : NamesAlike r w a := by
  intro _
  cases a with
  | create n spec apiVersion => exact oneVersion_of_others h
  | edit n spec apiVersion => exact oneVersion_of_others h
  | delete => trivial
  | reconcile => trivial

/-- A runtime for the Deployment `weather`, with a mode. -/
def weatherRuntime (name authBridgeMode : String) : AgentRuntimeResource where
  targetName := "weather"
  targetKind := "Deployment"
  name := name
  type := "agent"
  authBridgeMode := authBridgeMode

/-- One runtime comes, goes, and another one comes. -/
def oneAfterTheOther : List Action :=
  [.create ⟨"team", "first"⟩ (weatherRuntime "first" "lite") "apps/v1",
    .edit ⟨"team", "first"⟩ (weatherRuntime "first" "proxy-sidecar") "apps/v1",
    .delete ⟨"team", "first"⟩,
    .create ⟨"team", "second"⟩ (weatherRuntime "second" "lite") "apps/v1"]

theorem tidy_start : ({} : World).cluster.Tidy := by
  intro name rt hrt
  cases hrt

theorem uniqueTargets_start : ({} : World).cluster.UniqueTargets := by
  intro name name' rt rt' hrt
  cases hrt

/-- One after the other, they all pass, and there is never more than one. -/
theorem uniqueTargets_oneAfterTheOther :
    ∃ w', run (admittedStep quietReconciler) {} oneAfterTheOther = some w' ∧
      w'.cluster.UniqueTargets := by
  have hguard : Guarded (admittedStep quietReconciler) (NamesAlike quietReconciler) {}
      oneAfterTheOther :=
    Guarded.mono (namesAlike_of_alike quietReconciler) (by decide +kernel)
  have hrun : (run (admittedStep quietReconciler) {} oneAfterTheOther).isSome = true := by
    decide +kernel
  obtain ⟨w', hw'⟩ := Option.isSome_iff_exists.mp hrun
  exact ⟨w', hw', (uniqueTargets_iff quietReconciler tidy_start uniqueTargets_start
    oneAfterTheOther).1.mp hguard oneAfterTheOther w' (prefix_refl _) hw'⟩

/-- Two runtimes for one Deployment, with two versions of its API. -/
def twoVersions : List Action :=
  [.create ⟨"team", "first"⟩ (weatherRuntime "first" "lite") "apps/v1",
    .create ⟨"team", "second"⟩ (weatherRuntime "second" "envoy-sidecar") "apps/v1beta1"]

/-- The mode of the runtime that the injector finds for the Deployment. -/
def modeFound (l : List (NamespacedName × AgentRuntime)) : Option String :=
  (findAgentRuntime (plainCluster (l.map (·.2.toAgentRuntime)))
    plainWorkload).map (·.authBridgeMode)

/-- **Two runtimes for one workload**: both are admitted, and the mode that the injector
goes by is that of the first in the list. -/
theorem twoVersions_admitted : ∃ w', run (admittedStep quietReconciler) {} twoVersions = some w' ∧
      ¬w'.cluster.UniqueTargets ∧
      modeFound (w'.cluster.listRuntimes "team") ≠
        modeFound (w'.cluster.listRuntimes "team").reverse := by
  have hrun : ((run (admittedStep quietReconciler) {} twoVersions).any fun w' =>
      ((w'.cluster.runtimes.lookup ⟨"team", "first"⟩).any fun rt =>
        decide (rt.targetKind = "Deployment" ∧ rt.targetName = "weather")) &&
      ((w'.cluster.runtimes.lookup ⟨"team", "second"⟩).any fun rt =>
        decide (rt.targetKind = "Deployment" ∧ rt.targetName = "weather")) &&
      decide (modeFound (w'.cluster.listRuntimes "team") ≠
        modeFound (w'.cluster.listRuntimes "team").reverse)) = true := by decide +kernel
  obtain ⟨w', hw', hfacts⟩ := (Option.any_eq_true _ _).mp hrun
  simp only [Bool.and_eq_true, decide_eq_true_eq] at hfacts
  obtain ⟨⟨hfirst, hsecond⟩, hmode⟩ := hfacts
  obtain ⟨rt, hrt, htarget⟩ := (Option.any_eq_true _ _).mp hfirst
  obtain ⟨rt', hrt', htarget'⟩ := (Option.any_eq_true _ _).mp hsecond
  obtain ⟨hkind, hname⟩ := of_decide_eq_true htarget
  obtain ⟨hkind', hname'⟩ := of_decide_eq_true htarget'
  refine ⟨w', hw', fun hunique => ?_, hmode⟩
  have hsame := hunique _ _ rt rt' hrt hrt' rfl ⟨hkind.trans hkind'.symm, hname.trans hname'.symm⟩
  exact absurd hsame (by decide)

end Rossoctl.Runtime
