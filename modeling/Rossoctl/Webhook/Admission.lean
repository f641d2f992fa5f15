import Rossoctl.Run
import Rossoctl.Webhook.Inject

/-!
# Admission

`Handle` (`internal/webhook/v1alpha1/authbridge_webhook.go`,
`Rossoctl.Webhook.AuthBridgeWebhook.handle`) answers the creation of one pod. The API
server may call it several times in one admission, and other webhooks may change the
pod in between; on a pod that was injected before it takes a short cut.

An admission is a run (`Rossoctl.run`) of calls and of edits by others
(`Rossoctl.Webhook.AuthBridgeWebhook.step`). Its state remembers whether a full
injection has run, which is what `isAlreadyInjected` is meant to find out from the
names of the containers. `Rossoctl.Webhook.AuthBridgeWebhook.noBypass_iff` says for
which pods it does.
-/

namespace Rossoctl.Webhook

open Kube PodMutator Option

/-! ### The owner of a pod -/

/-- An owner reference of a pod. -/
structure PodOwner where
  kind : String
  name : String
  controller : Option Bool
  deriving DecidableEq

/-- A pod with the metadata that is read. -/
structure Pod where
  name : String := ""
  generateName : String := ""
  uid : String := ""
  labels : StringMap := ∅
  annotations : StringMap := ∅
  owners : List PodOwner := []
  spec : PodSpec

def podTemplateHashKey : String := "pod-template-hash"

/-- A text without a suffix that it has. -/
def cutSuffix (suffix s : String) : Option String :=
  if suffix.toList <:+ s.toList then
    some (String.ofList (s.toList.take (s.toList.length - suffix.toList.length)))
  else none

/-- The name without the hash of the template, or none. -/
def deploymentNameFromReplicaSet (rsName : String) (labels : StringMap) : String :=
  let hash := valueOf labels podTemplateHashKey
  if hash = "" then "" else (cutSuffix ("-" ++ hash) rsName).getD ""

/-- What a controller reference of a pod says of its workload, if its kind is known. -/
def ownerOf (labels : StringMap) (ref : PodOwner) : Option (String × String) :=
  if ref.controller ≠ some true then none
  else if ref.kind = "StatefulSet" then some (ref.name, "StatefulSet")
  else if ref.kind = "Sandbox" then some (ref.name, "Sandbox")
  else if ref.kind = "ReplicaSet" then
    let name := deploymentNameFromReplicaSet ref.name labels
    some (if name = "" then (ref.name, "") else (name, "Deployment"))
  else none

/-- `strings.TrimRight(s, "-")`. -/
def trimDashes (s : String) : String :=
  String.ofList (s.toList.reverse.dropWhile (· = '-')).reverse

/-- `ResolveOwner`: name and kind of the workload. -/
def resolveOwner (pod : Pod) : String × String :=
  match pod.owners.findSome? (ownerOf pod.labels) with
  | some owner => owner
  | none =>
    if pod.generateName ≠ "" then
      let rsName := trimDashes pod.generateName
      let name := deploymentNameFromReplicaSet rsName pod.labels
      if name = "" then (rsName, "") else (name, "Deployment")
    else (pod.name, "")

/-- `deriveWorkloadInfo`: name and kind. -/
def deriveWorkloadInfo (pod : Pod) : String × String :=
  let owner := resolveOwner pod
  if owner.1 = "" then (pod.uid, "") else owner

/-! ### Handle -/

/-- `WorkloadWantsOperatorClientReg`. -/
def workloadWantsOperatorClientReg (labels : StringMap) (injectTools : Bool) : Bool :=
  valueOf labels rossoctlTypeLabel = rossoctlTypeAgent ||
    (valueOf labels rossoctlTypeLabel = rossoctlTypeTool && injectTools)

/-- `isAlreadyInjected` goes by the names of containers alone. -/
def isAlreadyInjected (spec : PodSpec) : Bool :=
  containerExists spec.containers envoyProxyContainerName ||
    containerExists spec.containers authBridgeProxyContainerName ||
    containerExists spec.initContainers proxyInitContainerName

/-- An admission request: the object is what the decoder makes of the raw text. -/
structure Request where
  kind : String := "Pod"
  group : String := ""
  ns : String
  object : Except String Pod

/-- The response to the API server. -/
inductive Response where
  /-- Admitted as it is. -/
  | allowed (reason : String)
  | errored (code : Nat) (message : String)
  /-- Admitted with the patch that turns the object into this pod. -/
  | patched (pod : Pod)

/-- The pod that a response admits. -/
def Response.admitted? (pod : Pod) : Response → Option Pod
  | .allowed _ => some pod
  | .errored _ _ => none
  | .patched pod' => some pod'

/-- The webhook. -/
structure AuthBridgeWebhook where
  mutator : PodMutator
  /-- The first eight bytes of the SHA-256 sum of a text, in hexadecimal digits. -/
  digest : String → String

namespace AuthBridgeWebhook

variable (wh : AuthBridgeWebhook)

def keycloakClientCredentialsSecretName (ns workload : String) : String :=
  "rossoctl-keycloak-client-credentials-" ++
    wh.digest (ns ++ "\x00" ++ workload ++ "\x00rossoctl-keycloak-client-credentials")

/-- The annotations of a pod, with the Secret of the client of its workload where the
operator registers one and no Secret is named. -/
def annotationsFor (ns : String) (pod : Pod) : StringMap :=
  if valueOf pod.annotations annotationKeycloakClientSecretName = "" ∧
      workloadWantsOperatorClientReg pod.labels wh.mutator.gates.injectTools then
    pod.annotations.insert annotationKeycloakClientSecretName
      (wh.keycloakClientCredentialsSecretName ns (deriveWorkloadInfo pod).1)
  else pod.annotations

/-- The workload of a pod, as `Handle` gives it to `InjectAuthBridge`. -/
def workloadOf (ns : String) (pod : Pod) : Workload where
  ns := ns
  crName := (deriveWorkloadInfo pod).1
  kind := (deriveWorkloadInfo pod).2
  labels := pod.labels
  annotations := wh.annotationsFor ns pod

/-- The pod that `Handle` sends back, with its annotations and a new specification. -/
def patchedPod (ns : String) (pod : Pod) (spec : PodSpec) : Pod :=
  { pod with annotations := wh.annotationsFor ns pod, spec }

/-- The short cut: only the mounts of the Secret may be missing. -/
def handleInjected (ns : String) (pod : Pod) : Response :=
  if needsKeycloakClientCredentialsVolumePatch (wh.annotationsFor ns pod) pod.spec then
    .patched (wh.patchedPod ns pod
      (applyKeycloakClientCredentialsSecretVolumes (wh.annotationsFor ns pod) pod.spec))
  else .allowed "already injected"

/-- The response to what `InjectAuthBridge` has done. -/
def respond (ns : String) (pod : Pod) : Except String (Option PodSpec) → Response
  | .error e => .errored 500 e
  | .ok none => .allowed "injection not enabled"
  | .ok (some spec) => .patched (wh.patchedPod ns pod spec)

/-- `Handle` on a pod, once it is decoded: the ConfigMaps it applies, and the
response. -/
def handlePod (cl : Cluster) (ns : String) (pod : Pod) : List ConfigMap × Response :=
  if isAlreadyInjected pod.spec then ([], wh.handleInjected ns pod)
  else
    let outcome := wh.mutator.injectAuthBridge cl (wh.workloadOf ns pod) pod.spec
    (outcome.applied, wh.respond ns pod outcome.result)

/-- **`Handle`.** -/
def handle (cl : Cluster) (req : Request) : List ConfigMap × Response :=
  if req.kind ≠ "Pod" ∨ req.group ≠ "" then ([], .allowed "not a Pod")
  else
    match req.object with
    | .error e => ([], .errored 400 e)
    | .ok pod => wh.handlePod cl req.ns pod

/-! ### Admissions -/

end AuthBridgeWebhook

/-- The state of an admission: the pod as it stands, and the specification on which a
full injection has run, if one has. -/
structure Admission where
  pod : Pod
  injected : Option PodSpec := none

/-- What happens in an admission: a call of the webhook, or another webhook that makes
of the pod what it likes. -/
inductive AdmissionAction where
  | call
  | edit (f : Pod → Pod)

namespace AuthBridgeWebhook

variable (wh : AuthBridgeWebhook)

/-- The request that the API server makes for a pod. -/
def requestFor (ns : String) (pod : Pod) : Request := { ns, object := .ok pod }

/-- One step of an admission. An error ends it: the pod is not created. -/
def step (cl : Cluster) (ns : String) (st : Admission) : AdmissionAction → Option Admission
  | .call => ((wh.handle cl (requestFor ns st.pod)).2.admitted? st.pod).map fun pod =>
      { pod
        injected := st.injected <|> if isAlreadyInjected st.pod.spec then none
          else (wh.mutator.injectAuthBridge cl (wh.workloadOf ns st.pod)
            st.pod.spec).injected?.map fun _ => st.pod.spec }
  | .edit f => some { st with pod := f st.pod }

/-- An edit that leaves the metadata of the pod and its containers in place, and that
does not itself bring a container with a name of the sidecars before the injection. -/
structure KeepsContainers (st : Admission) (f : Pod → Pod) : Prop where
  meta_eq : f st.pod = { st.pod with spec := (f st.pod).spec }
  containers : st.pod.spec.containers ⊆ (f st.pod).spec.containers
  initContainers : st.pod.spec.initContainers ⊆ (f st.pod).spec.initContainers
  reserved : st.injected = none → isAlreadyInjected (f st.pod).spec = isAlreadyInjected st.pod.spec

/-- Calls at any time, and edits that keep the containers. -/
def Fair (st : Admission) : AdmissionAction → Prop
  | .call => True
  | .edit f => KeepsContainers st f

/-- Labels, gates and the resolved mode ask for an injection of the proxy sidecar. -/
structure RequiresInjection (cl : Cluster) (w : Workload) : Prop where
  wanted : wantsInjection wh.mutator.gates w.labels = true
  mode : resolveAuthBridgeMode wh.mutator.codec cl.namespaceConfig w.annotations =
      modeProxySidecar ∨
    resolveAuthBridgeMode wh.mutator.codec cl.namespaceConfig w.annotations = modeLite

/-- A pod has what the builder makes for the ports planned on the specification `spec₀`: the
sidecar, with perhaps more variables and mounts, and the init container where egress is
enforced. -/
def Equipped (cl : Cluster) (w : Workload) (spec₀ spec : PodSpec) : Prop :=
  ∃ egress plan, resolveEgressEnforcement wh.mutator.codec wh.mutator.platform
      cl.namespaceConfig = .ok egress ∧
    planPorts wh.mutator.platform spec₀
      (wh.mutator.settings cl w egress).inboundInterception = .ok plan ∧
    (∃ c ∈ spec.containers, (wh.mutator.proxySidecar cl.namespaceConfig
      (wh.mutator.settings cl w egress) plan).Grown c) ∧
    (egress = egressEnforcementEnforceRedirect →
      wh.mutator.proxyInit cl.namespaceConfig w plan ∈ spec.initContainers)

/-- The next call does not let the pod by: what it admits, if anything, is equipped, for the
ports of the pod that was injected before or else of the one it gets; and the short cut is
taken only after a full injection. -/
structure NoBypass (cl : Cluster) (ns : String) (st : Admission) : Prop where
  equipped : ∀ pod, (wh.handle cl (requestFor ns st.pod)).2.admitted? st.pod = some pod →
    wh.Equipped cl (wh.workloadOf ns st.pod) (st.injected.getD st.pod.spec) pod.spec
  shortcut : isAlreadyInjected st.pod.spec = true → st.injected.isSome = true

variable {wh} {cl : Cluster} {ns : String}

@[simp] theorem handle_requestFor (pod : Pod) :
    wh.handle cl (requestFor ns pod) = wh.handlePod cl ns pod := by
  rw [handle, if_neg]
  · rfl
  · rintro (h | h)
    · exact h rfl
    · exact h rfl

/-! ### One call -/

theorem keycloakClientCredentialsSecretName_ne (workload : String) :
    wh.keycloakClientCredentialsSecretName ns workload ≠ "" := by
  intro h
  have hfirst := (String.append_eq_empty_iff.mp h).1
  exact absurd hfirst (by decide)

@[simp] theorem patchedPod_spec (pod : Pod) (spec : PodSpec) :
    (wh.patchedPod ns pod spec).spec = spec := rfl

theorem annotationsFor_patchedPod (pod : Pod) (spec : PodSpec) :
    wh.annotationsFor ns (wh.patchedPod ns pod spec) = wh.annotationsFor ns pod := by
  by_cases h : valueOf pod.annotations annotationKeycloakClientSecretName = "" ∧
      workloadWantsOperatorClientReg pod.labels wh.mutator.gates.injectTools
  · have hset : wh.annotationsFor ns pod = pod.annotations.insert annotationKeycloakClientSecretName
          (wh.keycloakClientCredentialsSecretName ns (deriveWorkloadInfo pod).1) := if_pos h
    refine if_neg ?_
    rintro ⟨hempty, -⟩
    rw [patchedPod, hset, valueOf, AList.lookup_insert] at hempty
    exact keycloakClientCredentialsSecretName_ne _ hempty
  · have hkeep : wh.annotationsFor ns pod = pod.annotations := if_neg h
    refine if_neg ?_
    rw [patchedPod, hkeep]
    exact h

/-- **The workload of a pod stays the same** when the annotation is filled in and the
specification changes. -/
theorem workloadOf_patchedPod (pod : Pod) (spec : PodSpec) :
    wh.workloadOf ns (wh.patchedPod ns pod spec) = wh.workloadOf ns pod := by
  rw [workloadOf, annotationsFor_patchedPod, workloadOf]
  rfl

variable {w : Workload} {pod : Pod} {spec₀ spec : PodSpec}

theorem handlePod_of_injected (h : isAlreadyInjected pod.spec = true) :
    (wh.handlePod cl ns pod).2 = wh.handleInjected ns pod := by
  rw [handlePod, if_pos h]

theorem handlePod_of_fresh (h : isAlreadyInjected pod.spec = false) :
    (wh.handlePod cl ns pod).2 = wh.respond ns pod
      (wh.mutator.injectAuthBridge cl (wh.workloadOf ns pod) pod.spec).result := by
  rw [handlePod, h, if_neg Bool.false_ne_true]

/-- An equipped pod stays equipped when it grows and gets more containers. -/
theorem Equipped.mono {spec' : PodSpec} (h : wh.Equipped cl w spec₀ spec)
    (hcontainers : ∀ c ∈ spec.containers, ∃ c' ∈ spec'.containers, c.Grown c')
    (hinits : spec.initContainers ⊆ spec'.initContainers) : wh.Equipped cl w spec₀ spec' := by
  obtain ⟨egress, plan, hegress, hplan, ⟨c, hc, hgrown⟩, hinit⟩ := h
  obtain ⟨c', hc', hgrown'⟩ := hcontainers c hc
  exact ⟨egress, plan, hegress, hplan, ⟨c', hc', hgrown.trans hgrown'⟩,
    fun he => hinits (hinit he)⟩

theorem Equipped.of_grown {spec' : PodSpec} (h : wh.Equipped cl w spec₀ spec)
    (hgrown : spec.Grown spec') : wh.Equipped cl w spec₀ spec' :=
  h.mono (fun _ hc => exists_of_forall₂_mem hgrown.containers hc)
    (by rw [hgrown.initContainers]; exact List.Subset.refl _)

theorem Equipped.isAlreadyInjected (h : wh.Equipped cl w spec₀ spec) :
    isAlreadyInjected spec = true := by
  obtain ⟨egress, plan, -, -, ⟨c, hc, hgrown⟩, -⟩ := h
  have hsidecar : containerExists spec.containers authBridgeProxyContainerName = true :=
    containerExists_iff.mpr ⟨c, hc, hgrown.name_eq.trans (proxySidecar_name _ _ _)⟩
  rw [Webhook.isAlreadyInjected, hsidecar, Bool.or_true, Bool.true_or]

theorem equipped_of_injected {out : PodSpec}
    (hmode : resolveAuthBridgeMode wh.mutator.codec cl.namespaceConfig w.annotations =
        modeProxySidecar ∨
      resolveAuthBridgeMode wh.mutator.codec cl.namespaceConfig w.annotations = modeLite)
    (hnew : Webhook.isAlreadyInjected spec = false)
    (h : (wh.mutator.injectAuthBridge cl w spec).result = .ok (some out)) :
    wh.Equipped cl w spec out := by
  obtain ⟨egress, plan, document, hproxied⟩ := proxied_of_injectAuthBridge h hmode
  rw [Webhook.isAlreadyInjected, Bool.or_eq_false_iff, Bool.or_eq_false_iff] at hnew
  refine ⟨egress, plan, hproxied.egress_eq, hproxied.plan_eq,
    hproxied.sidecar hnew.1.2, fun henforce => ?_⟩
  rw [hproxied.initContainers, proxyInitContainers]
  have hsettings : (wh.mutator.settings cl w egress).egressEnforcement =
      egressEnforcementEnforceRedirect := henforce
  have hname : containerExists spec.initContainers
      (wh.mutator.proxyInit cl.namespaceConfig w plan).name = false := hnew.2
  rw [if_pos hsettings, addContainerIfMissing, hname, if_neg Bool.false_ne_true]
  exact List.mem_append_right _ (List.mem_singleton.mpr rfl)

/-- Where an injection is required and a sidecar is decided on, none is skipped. -/
theorem injectAuthBridge_ne_skipped (hreq : wh.RequiresInjection cl w)
    (hany : (evaluate wh.mutator.gates w.labels).anyInjected = true) :
    (wh.mutator.injectAuthBridge cl w spec).result ≠ .ok none := by
  rw [injectAuthBridge, hreq.wanted, hany, if_neg (by decide)]
  split
  · exact fun h => by cases h
  · split
    · exact fun h => by cases h
    · split
      · exact fun h => by cases h
      · rename_i egress _
        have hway : (wh.mutator.settings cl w egress).authBridgeMode ≠ modeWaypoint := by
          intro h
          rcases hreq.mode with hm | hm
          · exact absurd (hm.symm.trans h) (by decide)
          · exact absurd (hm.symm.trans h) (by decide)
        have hbranch : (wh.mutator.settings cl w egress).authBridgeMode = modeProxySidecar ∨
            (wh.mutator.settings cl w egress).authBridgeMode = modeLite := hreq.mode
        rw [injectMode, ← settings, if_neg hway, if_pos hbranch,
          injectProxySidecar]
        split
        · exact fun h => by cases h
        · split
          · exact fun h => by cases h
          · exact fun h => by cases h

theorem grown_of_shortcut {pod' : Pod} (halready : Webhook.isAlreadyInjected pod.spec = true)
    (h : (wh.handlePod cl ns pod).2.admitted? pod = some pod') :
    pod.spec.Grown pod'.spec ∧ wh.workloadOf ns pod' = wh.workloadOf ns pod := by
  rw [handlePod_of_injected halready, handleInjected] at h
  split at h
  · cases h
    refine ⟨?_, workloadOf_patchedPod pod _⟩
    rw [patchedPod_spec]
    exact grown_applyKeycloakClientCredentialsSecretVolumes _ _
  · cases h
    exact ⟨.refl pod.spec, rfl⟩

/-- A call that runs the full injection, where one is required: it was not skipped,
and the pod is equipped. -/
theorem injected_of_call {pod' : Pod} (hnew : Webhook.isAlreadyInjected pod.spec = false)
    (hreq : wh.RequiresInjection cl (wh.workloadOf ns pod))
    (hany : (evaluate wh.mutator.gates pod.labels).anyInjected = true)
    (h : (wh.handlePod cl ns pod).2.admitted? pod = some pod') :
    (wh.mutator.injectAuthBridge cl (wh.workloadOf ns pod) pod.spec).result = .ok (some pod'.spec) ∧
      wh.workloadOf ns pod' = wh.workloadOf ns pod := by
  rw [handlePod_of_fresh hnew] at h
  cases hresult : (wh.mutator.injectAuthBridge cl (wh.workloadOf ns pod) pod.spec).result with
  | error e =>
    rw [hresult] at h
    cases h
  | ok out =>
    cases out with
    | none => exact absurd hresult (injectAuthBridge_ne_skipped hreq hany)
    | some spec =>
      rw [hresult] at h
      cases h
      exact ⟨rfl, workloadOf_patchedPod pod spec⟩

/-! ### Whole admissions -/

variable (wh cl ns) in
/-- What every admission keeps: the workload, and an equipped pod once a full
injection has run, or none of the names before. -/
structure Tracked (w : Workload) (st : Admission) : Prop where
  workload_eq : wh.workloadOf ns st.pod = w
  equipped : ∀ spec₀ ∈ st.injected, wh.Equipped cl w spec₀ st.pod.spec
  fresh : st.injected = none → Webhook.isAlreadyInjected st.pod.spec = false

/-- **A call** in a state that is kept track of: what it admits is equipped, and if no
injection has run before, this call runs it. -/
theorem Tracked.equipped_of_call {st : Admission} (h : wh.Tracked cl ns w st)
    (hreq : wh.RequiresInjection cl w)
    (hany : (evaluate wh.mutator.gates w.labels).anyInjected = true)
    (hcall : (wh.handlePod cl ns st.pod).2.admitted? st.pod = some pod) :
    wh.Equipped cl w (st.injected.getD st.pod.spec) pod.spec ∧ wh.workloadOf ns pod = w ∧
      (st.injected = none → (wh.mutator.injectAuthBridge cl (wh.workloadOf ns st.pod)
        st.pod.spec).injected? = some pod.spec) := by
  obtain ⟨hw, hequipped, hfresh⟩ := h
  subst hw
  cases hi : st.injected with
  | some spec₀ =>
    have heq := hequipped spec₀ hi
    obtain ⟨hgrown, hw⟩ := grown_of_shortcut heq.isAlreadyInjected hcall
    exact ⟨heq.of_grown hgrown, hw, fun h => by cases h⟩
  | none =>
    obtain ⟨hresult, hw⟩ := injected_of_call (hfresh hi) hreq hany hcall
    exact ⟨equipped_of_injected hreq.mode (hfresh hi) hresult, hw,
      fun _ => Outcome.injected?_eq_some_iff.mpr hresult⟩

/-- What a call that admits the pod puts on record. -/
theorem Tracked.injected_of_call {st : Admission} (h : wh.Tracked cl ns w st)
    (hinjected : st.injected = none → (wh.mutator.injectAuthBridge cl (wh.workloadOf ns st.pod)
      st.pod.spec).injected? = some spec) :
    (st.injected <|> if Webhook.isAlreadyInjected st.pod.spec then none
      else (wh.mutator.injectAuthBridge cl (wh.workloadOf ns st.pod)
        st.pod.spec).injected?.map fun _ => st.pod.spec) =
      some (st.injected.getD st.pod.spec) := by
  cases hi : st.injected with
  | some spec₀ => rfl
  | none =>
    rw [h.fresh hi, if_neg Bool.false_ne_true, hinjected hi]
    rfl

/-- **One step** keeps track. -/
theorem Tracked.step {st st' : Admission} {a : AdmissionAction} (hreq : wh.RequiresInjection cl w)
    (hany : (evaluate wh.mutator.gates w.labels).anyInjected = true) (h : wh.Tracked cl ns w st)
    (hfair : Fair st a) (hstep : wh.step cl ns st a = some st') : wh.Tracked cl ns w st' := by
  cases a with
  | call =>
    obtain ⟨pod, hcall, rfl⟩ := map_eq_some_iff.mp hstep
    obtain ⟨hequipped, hw, hinjected⟩ := h.equipped_of_call hreq hany hcall
    have hrecord := h.injected_of_call hinjected
    refine ⟨hw, fun spec₀ hspec => ?_, fun hno => ?_⟩
    · cases some.inj (hspec.symm.trans hrecord)
      exact hequipped
    · cases hno.symm.trans hrecord
  | edit f =>
    cases hstep
    obtain ⟨hmeta, hcontainers, hinits, hreserved⟩ := hfair
    refine ⟨?_, fun spec₀ hi => ?_, fun hi => ?_⟩
    · rw [← h.workload_eq]
      rw [hmeta]
      rfl
    · exact (h.equipped spec₀ hi).mono (fun c hc => ⟨c, hcontainers hc, .refl c⟩) hinits
    · exact (hreserved hi).trans (h.fresh hi)

/-- **No injection bypass**, for a pod whose workload requires an injection: in every
admission of it, whatever other webhooks add, no call lets the pod by, if and only if
the pod as it is submitted has none of the names that `isAlreadyInjected` looks for,
and the labels of the single sidecars do not turn all of them off. -/
theorem noBypass_iff (wh : AuthBridgeWebhook) (cl : Cluster) (ns : String) (pod : Pod)
    (hreq : wh.RequiresInjection cl (wh.workloadOf ns pod)) :
    (∀ (actions : List AdmissionAction) (st : Admission),
        run (wh.step cl ns) { pod } actions = some st →
        Guarded (wh.step cl ns) Fair { pod } actions → wh.NoBypass cl ns st) ↔
      isAlreadyInjected pod.spec = false ∧
        (evaluate wh.mutator.gates pod.labels).anyInjected = true := by
  constructor
  · intro hall
    obtain ⟨hequipped, hshortcut⟩ := hall [] { pod } rfl trivial
    have hnew : isAlreadyInjected pod.spec = false :=
      Bool.eq_false_iff.mpr fun h => Bool.false_ne_true (hshortcut h)
    refine ⟨hnew, ?_⟩
    by_contra hany
    -- without any sidecar the pod is admitted as it was submitted
    rw [Bool.not_eq_true] at hany
    have hskip : (wh.mutator.injectAuthBridge cl (wh.workloadOf ns pod) pod.spec).result =
        .ok none := by
      rw [injectAuthBridge, if_pos]
      · rfl
      · show (_ || !(evaluate wh.mutator.gates pod.labels).anyInjected) = true
        rw [hany, Bool.not_false, Bool.or_true]
    have hcall : (wh.handle cl (requestFor ns pod)).2.admitted? pod = some pod := by
      rw [handle_requestFor, handlePod_of_fresh hnew, hskip]
      rfl
    have hcontra := (hequipped pod hcall).isAlreadyInjected
    rw [hnew] at hcontra
    cases hcontra
  · rintro ⟨hnew, hany⟩ actions st hrun hguarded
    have hstart : wh.Tracked cl ns (wh.workloadOf ns pod) { pod } :=
      ⟨rfl, fun _ h => (by cases h), fun _ => hnew⟩
    have htracked : wh.Tracked cl ns (wh.workloadOf ns pod) st :=
      run_invariant (I := wh.Tracked cl ns (wh.workloadOf ns pod))
        (fun _ _ _ h hfair hstep => Tracked.step hreq hany h hfair hstep) hstart hguarded hrun
    refine ⟨fun pod' hcall => ?_, fun h => ?_⟩
    · rw [handle_requestFor] at hcall
      rw [htracked.workload_eq]
      exact (htracked.equipped_of_call hreq hany hcall).1
    · by_contra hi
      rw [htracked.fresh (not_isSome_iff_eq_none.mp hi)] at h
      cases h

/-- A webhook with the compiled defaults. -/
def plainWebhook : AuthBridgeWebhook where
  mutator := plainMutator compiledDefaults []
  digest _ := "0123456789abcdef"

/-- The pod of an agent with these init containers. -/
def submittedPod (initContainers : List Container) : Pod where
  generateName := "weather-7d4f8b9c5-"
  labels := AList.insert rossoctlTypeLabel rossoctlTypeAgent ∅
  spec := { agentPod [⟨"", 8000, "TCP"⟩] with initContainers }

theorem requiresInjection_submittedPod (initContainers : List Container) :
    plainWebhook.RequiresInjection (plainCluster [])
      (plainWebhook.workloadOf "team1" (submittedPod initContainers)) :=
  ⟨by rfl, .inl (by rfl)⟩

/-- An ordinary agent: after the first call a full injection has run, and the second
call does not let the pod by either. -/
theorem noBypass_submittedPod :
    ∃ st, run (plainWebhook.step (plainCluster []) "team1") { pod := submittedPod [] } [.call] =
        some st ∧ st.injected = some (submittedPod []).spec ∧ plainWebhook.NoBypass (plainCluster []) "team1" st := by
  obtain ⟨st, hrun, hinjected⟩ := (any_eq_true (fun st : Admission =>
      decide (st.injected = some (submittedPod []).spec))
    (run (plainWebhook.step (plainCluster []) "team1") { pod := submittedPod [] } [.call])).mp
      (by decide +kernel)
  exact ⟨st, hrun, of_decide_eq_true hinjected, (noBypass_iff plainWebhook (plainCluster []) "team1"
    (submittedPod []) (requiresInjection_submittedPod [])).mpr ⟨by decide, by decide⟩ [.call] st
      hrun (guarded_cons.mpr ⟨trivial, fun _ _ => trivial⟩)⟩

/-- **An agent by itself**: a pod that brings an init container of the name
`proxy-init` is admitted with the mounts of its Secret and without any sidecar. -/
theorem bypass_proxyInit :
    plainWebhook.RequiresInjection (plainCluster []) (plainWebhook.workloadOf "team1"
        (submittedPod [{ name := "proxy-init", image := "busybox" }])) ∧
      (∃ pod, (plainWebhook.handle (plainCluster []) (requestFor "team1"
          (submittedPod [{ name := "proxy-init", image := "busybox" }]))).2.admitted?
            (submittedPod [{ name := "proxy-init", image := "busybox" }]) = some pod ∧
        pod.spec.containers.map Container.name = ["agent"] ∧
        pod.spec.initContainers = [{ name := "proxy-init", image := "busybox" }]) ∧
      ¬ plainWebhook.NoBypass (plainCluster []) "team1"
        { pod := submittedPod [{ name := "proxy-init", image := "busybox" }] } := by
  refine ⟨requiresInjection_submittedPod _, ?_, fun h => ?_⟩
  · obtain ⟨pod, hpod, hnames⟩ := (any_eq_true (fun pod : Pod =>
      decide (pod.spec.containers.map Container.name = ["agent"] ∧
        pod.spec.initContainers = [{ name := "proxy-init", image := "busybox" }])) _).mp
        (show ((plainWebhook.handle (plainCluster []) (requestFor "team1"
          (submittedPod [{ name := "proxy-init", image := "busybox" }]))).2.admitted?
            (submittedPod [{ name := "proxy-init", image := "busybox" }])).any _ = true from
          by decide +kernel)
    exact ⟨pod, hpod, of_decide_eq_true hnames⟩
  · exact Bool.false_ne_true (h.shortcut (by decide))

end AuthBridgeWebhook

end Rossoctl.Webhook
