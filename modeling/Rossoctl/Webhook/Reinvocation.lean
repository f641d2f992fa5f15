import Rossoctl.Webhook.Admission
import Rossoctl.Webhook.Doubling

/-!
# A second call

The API server may call the webhook again on a pod that the webhook has changed
(`reinvocationPolicy=IfNeeded`). `Rossoctl.Webhook.AuthBridgeWebhook.handle_again` says that the
second call changes nothing, whatever the pod is and however the first call went.

There are two ways to this. In most cases the second call finds the name of a sidecar and takes the
short cut; what is left to it, the mounts of the credentials, has been done by the first call, and
`needsKeycloakClientCredentialsVolumePatch` sees that
(`Rossoctl.Webhook.needs_iff_apply_ne`). A pod in the envoy-sidecar mode for which neither the
proxy nor the init container is wanted gets only volumes. The second call does not recognise it and
runs the full injection again, step by step to no effect
(`Rossoctl.Webhook.PodMutator.envoyPod_envoyPod`).
-/

namespace Rossoctl.Webhook

open Kube List Bool

/-! ### Needs and Apply -/

/-- The Secret that an annotation names. -/
abbrev credentialsSecret (annotations : StringMap) : String :=
  trimSpace (valueOf annotations annotationKeycloakClientSecretName)

/-- A container that mounts `shared-data` has both mounts of the credentials. -/
def HasCredentials (volName : String) (c : Container) : Prop :=
  containerVolumeMountExists c.volumeMounts "shared-data" = true →
    containerHasKeycloakCredentialsMount c volName "/shared/client-secret.txt" = true ∧
      containerHasKeycloakCredentialsMount c volName "/shared/client-id.txt" = true

variable (annotations : StringMap) (spec : PodSpec) {name : String}

theorem needs_eq_false_iff : needsKeycloakClientCredentialsVolumePatch annotations spec = false ↔
      credentialsSecret annotations = "" ∨
        volumeExists spec.volumes (credentialsSecret annotations) = true ∧
          ∀ c ∈ spec.containers, HasCredentials (credentialsSecret annotations) c := by
  rw [needsKeycloakClientCredentialsVolumePatch]
  by_cases hsecret : credentialsSecret annotations = ""
  · rw [if_pos hsecret]
    exact iff_of_true rfl (.inl hsecret)
  · rw [if_neg hsecret, or_iff_right hsecret]
    cases volumeExists spec.volumes (credentialsSecret annotations) with
    | false => simp
    | true =>
      rw [Bool.not_true, if_neg Bool.false_ne_true, any_eq_false]
      refine (forall₂_congr fun c _ => ?_).trans (and_iff_right rfl).symm
      rw [HasCredentials]
      cases containerVolumeMountExists c.volumeMounts "shared-data" <;>
        cases containerHasKeycloakCredentialsMount c (credentialsSecret annotations)
          "/shared/client-secret.txt" <;>
        cases containerHasKeycloakCredentialsMount c (credentialsSecret annotations)
          "/shared/client-id.txt" <;> decide

variable {c : Container}

theorem appendSubPathMount_of_has {vol mountPath : String}
    (h : containerHasKeycloakCredentialsMount c vol mountPath = true) (subPath : String) :
    appendSubPathMount vol subPath mountPath c = c := if_pos h

theorem has_appendSubPathMount (vol subPath mountPath : String) (c : Container) :
    containerHasKeycloakCredentialsMount (appendSubPathMount vol subPath mountPath c) vol
      mountPath = true := by
  rw [appendSubPathMount]
  split
  · assumption
  · exact any_eq_true.mpr ⟨_, mem_append_right _ (mem_singleton.mpr rfl), by simp⟩

theorem has_of_grown {c' : Container} (h : c.Grown c') {vol mountPath : String}
    (hhas : containerHasKeycloakCredentialsMount c vol mountPath = true) :
    containerHasKeycloakCredentialsMount c' vol mountPath = true := by
  obtain ⟨vm, hvm, hname⟩ := any_eq_true.mp hhas
  exact any_eq_true.mpr ⟨vm, h.2.2.subset hvm, hname⟩

theorem mountCredentials_of_hasCredentials {volName : String} (h : HasCredentials volName c) :
    mountCredentials volName c = c := by
  rw [mountCredentials]
  split
  · rename_i hshared
    obtain ⟨hsecret, hid⟩ := h hshared
    rw [appendSubPathMount_of_has hsecret, appendSubPathMount_of_has hid]
  · rfl

theorem hasCredentials_mountCredentials (volName : String) (c : Container) :
    HasCredentials volName (mountCredentials volName c) := by
  rw [mountCredentials]
  split
  · intro _
    exact ⟨has_of_grown (grown_appendSubPathMount _ _ _ _) (has_appendSubPathMount _ _ _ c),
      has_appendSubPathMount _ _ _ _⟩
  · rename_i hshared
    exact fun h => absurd h hshared

theorem volumeExists_addVolumeIfMissing_self (vs : List Volume) (v : Volume) :
    volumeExists (addVolumeIfMissing vs v) v.name = true := by
  rw [volumeExists_addVolumeIfMissing, decide_eq_true rfl, Bool.or_true]

/-- **Apply leaves nothing to do.** -/
theorem needs_apply : needsKeycloakClientCredentialsVolumePatch annotations
      (applyKeycloakClientCredentialsSecretVolumes annotations spec) = false := by
  rw [needs_eq_false_iff, applyKeycloakClientCredentialsSecretVolumes]
  by_cases hsecret : credentialsSecret annotations = ""
  · exact .inl hsecret
  · rw [if_neg hsecret]
    refine .inr ⟨volumeExists_addVolumeIfMissing_self _ _, fun c hc => ?_⟩
    obtain ⟨c₀, -, rfl⟩ := mem_map.mp hc
    exact hasCredentials_mountCredentials _ c₀

/-- **Apply does nothing where nothing is needed.** -/
theorem apply_of_not_needs {annotations : StringMap} {spec : PodSpec}
    (h : needsKeycloakClientCredentialsVolumePatch annotations spec = false) :
    applyKeycloakClientCredentialsSecretVolumes annotations spec = spec := by
  rw [applyKeycloakClientCredentialsSecretVolumes]
  obtain hsecret | ⟨hvolume, hcontainers⟩ := (needs_eq_false_iff annotations spec).mp h
  · rw [if_pos hsecret]
  · split
    · rfl
    · have hmap : spec.containers.map (mountCredentials (credentialsSecret annotations)) =
          spec.containers := by
        conv_rhs => rw [← map_id spec.containers]
        exact map_congr_left fun c hc => mountCredentials_of_hasCredentials (hcontainers c hc)
      rw [addVolumeIfMissing, if_pos hvolume, hmap]

theorem needs_iff_apply_ne : needsKeycloakClientCredentialsVolumePatch annotations spec = true ↔
      applyKeycloakClientCredentialsSecretVolumes annotations spec ≠ spec := by
  constructor
  · intro h hsame
    rw [← hsame, needs_apply] at h
    exact false_ne_true h
  · intro h
    by_contra hnot
    exact h (apply_of_not_needs (not_eq_true _ ▸ hnot))

/-! ### The steps of an injection, again -/

theorem updateFirst_of_not_exists {cs : List Container}
    (h : containerExists cs name = false) (f : Container → Container) :
    updateFirst name f cs = cs := by
  induction cs with
  | nil => rfl
  | cons c cs ih =>
    rw [containerExists, any_cons, or_eq_false_iff, decide_eq_false_iff_not] at h
    rw [updateFirst, if_neg h.1, ih h.2]

theorem volumeExists_iff {vs : List Volume} :
    volumeExists vs name = true ↔ ∃ v ∈ vs, v.name = name := by
  simp [volumeExists]

theorem addVolumes_of_exists {new : List Volume} {pod : PodSpec}
    (h : ∀ v ∈ new, volumeExists pod.volumes v.name = true) : addVolumes new pod = pod := by
  have hvolumes : new.foldl addVolumeIfMissing pod.volumes = pod.volumes := by
    induction new with
    | nil => rfl
    | cons v new ih =>
      rw [foldl_cons, addVolumeIfMissing, if_pos (h v mem_cons_self)]
      exact ih fun v' hv' => h v' (mem_cons_of_mem _ hv')
  rw [addVolumes, hvolumes]

theorem volumeExists_foldl (new vs : List Volume) :
    ∀ v ∈ new, volumeExists (new.foldl addVolumeIfMissing vs) v.name = true := by
  induction new generalizing vs with
  | nil => exact fun _ h => absurd h not_mem_nil
  | cons v new ih =>
    intro v' hv'
    obtain rfl | hv' := mem_cons.mp hv'
    · obtain ⟨u, hu, hname⟩ := volumeExists_iff.mp (volumeExists_addVolumeIfMissing_self vs v')
      exact volumeExists_iff.mpr ⟨u, (sublist_foldl_addVolumeIfMissing new _).subset hu, hname⟩
    · exact ih _ v' hv'

theorem volumes_sublist_apply : spec.volumes.Sublist
      (applyKeycloakClientCredentialsSecretVolumes annotations spec).volumes := by
  rw [applyKeycloakClientCredentialsSecretVolumes]
  split
  · exact .refl _
  · exact sublist_foldl_addVolumeIfMissing [_] spec.volumes

theorem ensureFSGroup_ensureFSGroup : ensureFSGroup (ensureFSGroup spec) = ensureFSGroup spec := by
  cases hgroup : spec.fsGroup <;> simp [ensureFSGroup, hgroup]

theorem volumeMounts_foldl_setOrAddEnv (names : List String) (value : String) (c : Container) :
    (names.foldl (fun c env => setOrAddEnv c env value) c).volumeMounts = c.volumeMounts := by
  induction names generalizing c with
  | nil => rfl
  | cons name names ih => exact ih _

theorem shared_of_addVolumeMountIfMissing {vm : VolumeMount} (hne : vm.name ≠ "shared-data")
    (h : containerVolumeMountExists (addVolumeMountIfMissing vm c).volumeMounts "shared-data" =
      true) : containerVolumeMountExists c.volumeMounts "shared-data" = true := by
  rw [addVolumeMountIfMissing] at h
  split at h
  · exact h
  · rw [containerVolumeMountExists, any_append, or_eq_true] at h
    refine h.resolve_right fun hlast => ?_
    simp [hne] at hlast

/-- The mounts of the TLS bridge leave nothing to do for the credentials. -/
theorem needs_applyTLSBridgeMounts {annotations : StringMap} {spec : PodSpec}
    (h : needsKeycloakClientCredentialsVolumePatch annotations spec = false)
    (workloadName : String) :
    needsKeycloakClientCredentialsVolumePatch annotations
      (applyTLSBridgeMounts workloadName spec) = false := by
  rw [needs_eq_false_iff] at h ⊢
  refine h.imp_right fun ⟨hvolume, hcontainers⟩ => ⟨?_, fun c hc => ?_⟩
  · obtain ⟨v, hv, hname⟩ := volumeExists_iff.mp hvolume
    exact volumeExists_iff.mpr ⟨v, (sublist_foldl_addVolumeIfMissing _ _).subset hv, hname⟩
  · obtain ⟨c₀, hc₀, rfl⟩ := mem_map.mp hc
    intro hshared
    have hbefore : containerVolumeMountExists c₀.volumeMounts "shared-data" = true := by
      rw [mountTLSBridge] at hshared
      split at hshared
      · refine shared_of_addVolumeMountIfMissing ?_ hshared
        decide
      · rw [volumeMounts_foldl_setOrAddEnv] at hshared
        refine shared_of_addVolumeMountIfMissing ?_ hshared
        decide
    obtain ⟨hsecret, hid⟩ := hcontainers c₀ hc₀ hbefore
    exact ⟨has_of_grown (grown_mountTLSBridge c₀) hsecret,
      has_of_grown (grown_mountTLSBridge c₀) hid⟩

namespace PodMutator

variable {m : PodMutator} {ns : NamespaceConfig} {w : Workload} {r : Resolved}

theorem needs_ensureFSGroup (annotations : StringMap) (spec : PodSpec) :
    needsKeycloakClientCredentialsVolumePatch annotations
        (if r.spireEnabled then ensureFSGroup spec else spec) =
      needsKeycloakClientCredentialsVolumePatch annotations spec := by
  split <;> rfl

variable (plan : PortPlan) (cmName routesCMName : String) {volumes : List Volume} {cl : Cluster}
  {out : PodSpec}

theorem needs_proxyPod (pod : PodSpec) : needsKeycloakClientCredentialsVolumePatch w.annotations
      (m.proxyPod ns w r plan cmName routesCMName pod) = false := by
  rw [proxyPod, needs_ensureFSGroup]
  split
  · exact needs_applyTLSBridgeMounts (needs_apply _ _) _
  · exact needs_apply _ _

theorem needs_envoyPod (decision : InjectionDecision) (volumes : List Volume) (pod : PodSpec) :
    needsKeycloakClientCredentialsVolumePatch w.annotations
      (m.envoyPod ns w r decision volumes pod) = false := by
  rw [envoyPod, needs_ensureFSGroup]
  exact needs_apply _ _

theorem isAlreadyInjected_proxyPod (pod : PodSpec) :
    isAlreadyInjected (m.proxyPod ns w r plan cmName routesCMName pod) = true := by
  have hnames := map_name_of_grown (proxyPod_spec (m := m) ns w r plan cmName routesCMName pod).1
  have hsidecar : containerExists (m.proxyPod ns w r plan cmName routesCMName pod).containers
      authBridgeProxyContainerName = true := by
    rw [containerExists_eq, hnames, ← containerExists_eq, ← proxySidecar_name ns r plan]
    exact containerExists_addContainerIfMissing _ _
  rw [isAlreadyInjected, hsidecar, Bool.or_true, Bool.true_or]

variable {pod : PodSpec} {decision : InjectionDecision}

/-- What an Envoy injection leaves of a pod that it does not recognise afterwards: neither the
proxy nor the init container was wanted. -/
theorem envoyPod_of_not_injected
    (h : isAlreadyInjected (m.envoyPod ns w r decision volumes pod) = false) :
    decision.envoyProxy.inject = false ∧ decision.proxyInit.inject = false := by
  have hgroup (spec : PodSpec) : PodSpec.Grown spec (if r.spireEnabled then ensureFSGroup spec
      else spec) := grown_ite grown_ensureFSGroup spec
  rw [isAlreadyInjected, or_eq_false_iff, or_eq_false_iff, containerExists_eq,
    containerExists_eq, envoyPod] at h
  obtain ⟨⟨hproxy, -⟩, hinit⟩ := h
  rw [map_name_of_grown (hgroup _).containers, map_name_of_grown
    (grown_applyKeycloakClientCredentialsSecretVolumes _ _).containers, map_name_of_grown
    (grown_addVolumes _ _).containers, map_name_of_grown
    (forall₂_updateFirst .refl (fun c => grown_setOrAddEnv c _ _) _ _), ← containerExists_eq]
    at hproxy
  rw [(hgroup _).initContainers,
    (grown_applyKeycloakClientCredentialsSecretVolumes _ _).initContainers,
    (grown_addVolumes _ _).initContainers] at hinit
  constructor
  · by_contra hwanted
    rw [not_eq_false] at hwanted
    rw [hwanted, if_pos rfl] at hproxy
    exact false_ne_true (hproxy.symm.trans (containerExists_addContainerIfMissing _ _))
  · by_contra hwanted
    rw [not_eq_false] at hwanted
    rw [hwanted, if_pos rfl] at hinit
    exact false_ne_true (hinit.symm.trans (containerExists_addContainerIfMissing _ _))

theorem serviceAccountName_envoyPod (decision : InjectionDecision) (volumes : List Volume)
    (pod : PodSpec) :
    (m.envoyPod ns w r decision volumes pod).serviceAccountName = pod.serviceAccountName := by
  have hgroup (spec : PodSpec) : (if r.spireEnabled then ensureFSGroup spec
      else spec).serviceAccountName = spec.serviceAccountName := by
    split <;> rfl
  rw [envoyPod, hgroup, applyKeycloakClientCredentialsSecretVolumes]
  split <;> rfl

theorem volumeExists_envoyPod (decision : InjectionDecision) (volumes : List Volume)
    (pod : PodSpec) :
    ∀ v ∈ volumes, volumeExists (m.envoyPod ns w r decision volumes pod).volumes v.name = true := by
  have hgroup (spec : PodSpec) :
      (if r.spireEnabled then ensureFSGroup spec else spec).volumes = spec.volumes := by
    split <;> rfl
  intro v hv
  obtain ⟨u, hu, hname⟩ := volumeExists_iff.mp (volumeExists_foldl volumes pod.volumes v hv)
  rw [envoyPod, hgroup]
  exact volumeExists_iff.mpr ⟨u, (volumes_sublist_apply w.annotations _).subset hu, hname⟩

/-- **The full injection again**, on a pod that got only volumes. -/
theorem envoyPod_envoyPod (h : isAlreadyInjected (m.envoyPod ns w r decision volumes pod) = false) :
    m.envoyPod ns w r decision volumes (m.envoyPod ns w r decision volumes pod) =
      m.envoyPod ns w r decision volumes pod := by
  obtain ⟨hproxy, hinit⟩ := envoyPod_of_not_injected h
  have hvolumes : ∀ v ∈ volumes,
      volumeExists (m.envoyPod ns w r decision volumes pod).volumes v.name = true :=
    volumeExists_envoyPod decision volumes pod
  have hneeds : needsKeycloakClientCredentialsVolumePatch w.annotations
      (m.envoyPod ns w r decision volumes pod) = false := needs_envoyPod decision volumes pod
  have hgroup : (if r.spireEnabled then ensureFSGroup (m.envoyPod ns w r decision volumes pod)
      else m.envoyPod ns w r decision volumes pod) = m.envoyPod ns w r decision volumes pod := by
    by_cases hspire : r.spireEnabled = true
    · rw [if_pos hspire, envoyPod, if_pos hspire, ensureFSGroup_ensureFSGroup]
    · rw [if_neg hspire]
  generalize m.envoyPod ns w r decision volumes pod = out at h hvolumes hneeds hgroup
  rw [isAlreadyInjected, Bool.or_eq_false_iff, Bool.or_eq_false_iff] at h
  rw [envoyPod, hproxy, hinit, if_neg Bool.false_ne_true, if_neg Bool.false_ne_true,
    updateFirst_of_not_exists h.1.1, @addVolumes_of_exists _ { out with } hvolumes,
    apply_of_not_needs hneeds, hgroup]

theorem injectEnvoySidecar_result
    (h : (m.injectEnvoySidecar cl w ns r decision pod).result = .ok (some out)) :
    ∃ volumes, out = m.envoyPod ns w r decision volumes pod ∧ ∀ pod',
      (m.injectEnvoySidecar cl w ns r decision pod').result =
        .ok (some (m.envoyPod ns w r decision volumes pod')) := by
  rw [injectEnvoySidecar] at h
  rcases hagent : m.ensurePerAgentConfigMap cl w.ns w.crName modeEnvoySidecar ns [] r.mtlsMode ""
    r.spireEnabled (findAgentRuntime cl w) with ⟨applied, e | ⟨cmName, routesCMName⟩⟩
  · rw [hagent] at h
    cases h
  · rw [hagent] at h
    rcases henvoy : m.ensurePerAgentEnvoyConfigMap cl w.ns w.crName ns r.mtlsMode with
      ⟨applied', e | envoyCMName⟩
    · rw [henvoy] at h
      cases h
    · rw [henvoy] at h
      cases h
      refine ⟨_, rfl, fun pod' => ?_⟩
      rw [injectEnvoySidecar, hagent]
      rw [henvoy]

/-- **An injected pod, injected again**: its credentials are there, and if it is not recognised,
the second injection leaves it as it is. The first one has doubled nothing. -/
theorem injectAuthBridge_again (h : (m.injectAuthBridge cl w pod).result = .ok (some out)) :
    needsKeycloakClientCredentialsVolumePatch w.annotations out = false ∧
      (isAlreadyInjected out = false →
        (m.injectAuthBridge cl w out).result = .ok (some out)) ∧ pod.NoneDoubled out := by
  obtain ⟨-, hnone⟩ | ⟨egress, account, hegress, hout, hagain⟩ := injectAuthBridge_cases m cl w pod
  · rw [Outcome.injected?_eq_some_iff.mpr h] at hnone
    cases hnone
  · have haccounted (name : String) : pod.NoneDoubled { pod with serviceAccountName := name } :=
      ⟨.refl _, .refl _, .refl _⟩
    by_cases hproxy : (m.settings cl w egress).authBridgeMode = modeProxySidecar ∨
        (m.settings cl w egress).authBridgeMode = modeLite
    · obtain ⟨egress', plan, document, -, routesCMName, account', rfl⟩ :=
        proxyPod_of_injectAuthBridge h hproxy
      refine ⟨needs_proxyPod _ _ _ _, fun hnot => ?_, (haccounted _).trans
        (noneDoubled_proxyPod _ _ _ _)⟩
      rw [isAlreadyInjected_proxyPod] at hnot
      cases hnot
    · rw [hout, injectMode] at h
      by_cases hway : (m.settings cl w egress).authBridgeMode = modeWaypoint
      · rw [if_pos hway] at h
        cases h
      · rw [if_neg hway, if_neg hproxy] at h
        obtain ⟨volumes, rfl, hsame⟩ := injectEnvoySidecar_result h
        refine ⟨needs_envoyPod _ _ _, fun hnot => ?_, (haccounted _).trans
          (noneDoubled_envoyPod _ _ _)⟩
        have haccount : (m.envoyPod cl.namespaceConfig w (m.settings cl w egress)
            (evaluate m.gates w.labels) volumes
            { pod with serviceAccountName := account }).serviceAccountName = account :=
          serviceAccountName_envoyPod _ _ _
        rw [hagain _ haccount, injectMode, if_neg hway, if_neg hproxy, hsame,
          envoyPod_envoyPod hnot]

end PodMutator

namespace AuthBridgeWebhook

variable {wh : AuthBridgeWebhook} {cl : Cluster} {ns : String}

/-- The pod that a call admits. -/
def admitPod (wh : AuthBridgeWebhook) (cl : Cluster) (ns : String) (pod : Pod) : Option Pod :=
  (wh.handle cl (requestFor ns pod)).2.admitted? pod

theorem patchedPod_patchedPod (pod : Pod) (spec spec' : PodSpec) :
    wh.patchedPod ns (wh.patchedPod ns pod spec) spec' = wh.patchedPod ns pod spec' := by
  rw [patchedPod, annotationsFor_patchedPod]
  rfl

variable {pod pod' : Pod}

/-- A pod that is recognised and has its credentials is left alone. -/
theorem admitPod_of_injected (h : isAlreadyInjected pod.spec = true)
    (hneeds : needsKeycloakClientCredentialsVolumePatch (wh.annotationsFor ns pod) pod.spec =
      false) : wh.admitPod cl ns pod = some pod := by
  rw [admitPod, handle_requestFor, handlePod_of_injected h, handleInjected, hneeds,
    if_neg Bool.false_ne_true]
  rfl

/-- **What a call admits**: the pod as it is, a recognised pod with its credentials, or a pod with
the sidecars. -/
theorem admitPod_cases (h : wh.admitPod cl ns pod = some pod') : pod' = pod ∨
      (isAlreadyInjected pod.spec = true ∧ pod' = wh.patchedPod ns pod
        (applyKeycloakClientCredentialsSecretVolumes (wh.annotationsFor ns pod) pod.spec)) ∨
      ∃ spec, (wh.mutator.injectAuthBridge cl (wh.workloadOf ns pod) pod.spec).result =
          .ok (some spec) ∧ pod' = wh.patchedPod ns pod spec := by
  rw [admitPod, handle_requestFor] at h
  by_cases hinjected : isAlreadyInjected pod.spec = true
  · rw [handlePod_of_injected hinjected, handleInjected] at h
    split at h
    · exact .inr (.inl ⟨hinjected, (Option.some.inj h).symm⟩)
    · exact .inl (Option.some.inj h).symm
  · rw [handlePod_of_fresh (not_eq_true _ ▸ hinjected)] at h
    rcases hresult : (wh.mutator.injectAuthBridge cl (wh.workloadOf ns pod) pod.spec).result with
      e | _ | spec
    all_goals rw [hresult] at h
    · cases h
    · exact .inl (Option.some.inj h).symm
    · exact .inr (.inr ⟨spec, rfl, (Option.some.inj h).symm⟩)

/-- **What a call admits it admits again**, as it is. -/
theorem admitPod_of_admitted (h : wh.admitPod cl ns pod = some pod') :
    wh.admitPod cl ns pod' = some pod' := by
  obtain rfl | ⟨hinjected, rfl⟩ | ⟨spec, hresult, rfl⟩ := admitPod_cases h
  · exact h
  · have hgrown := grown_applyKeycloakClientCredentialsSecretVolumes (wh.annotationsFor ns pod)
      pod.spec
    refine admitPod_of_injected ?_ ?_
    · rw [isAlreadyInjected, containerExists_eq, containerExists_eq, containerExists_eq]
        at hinjected ⊢
      rw [patchedPod_spec, map_name_of_grown hgrown.containers, hgrown.initContainers]
      exact hinjected
    · rw [annotationsFor_patchedPod, patchedPod_spec, needs_apply]
  · obtain ⟨hneeds, hagain, -⟩ := PodMutator.injectAuthBridge_again hresult
    cases hnow : isAlreadyInjected spec with
    | true =>
      refine admitPod_of_injected hnow ?_
      rw [annotationsFor_patchedPod]
      exact hneeds
    | false =>
      rw [admitPod, handle_requestFor, handlePod_of_fresh hnow, workloadOf_patchedPod,
        patchedPod_spec, hagain hnow, respond, patchedPod_patchedPod]
      rfl

theorem run_calls (st : Admission) (n : Nat) :
    (run (wh.step cl ns) st (List.replicate (n + 1) .call)).map Admission.pod =
      wh.admitPod cl ns st.pod := by
  induction n generalizing st with
  | zero =>
    change ((Option.map _ (wh.admitPod cl ns st.pod)).bind some).map Admission.pod = _
    cases wh.admitPod cl ns st.pod <;> rfl
  | succ n ih =>
    change ((Option.map _ (wh.admitPod cl ns st.pod)).bind _).map Admission.pod = _
    cases hcall : wh.admitPod cl ns st.pod with
    | none => rfl
    | some pod' => exact (ih _).trans (admitPod_of_admitted hcall)

theorem noneDoubled_of_admitPod (h : wh.admitPod cl ns pod = some pod') :
    pod.spec.NoneDoubled pod'.spec := by
  obtain rfl | ⟨-, rfl⟩ | ⟨spec, hresult, rfl⟩ := admitPod_cases h
  · exact .refl _
  · rw [patchedPod_spec]
    exact noneDoubled_apply _ pod.spec
  · rw [patchedPod_spec]
    exact (PodMutator.injectAuthBridge_again hresult).2.2

/-- **Handle after Handle is Handle**, for every pod, cluster and configuration. A call on the pod
that a call has admitted admits it unchanged, so that any number of calls leave the pod of the
first – with the agent's port where the first has put it –; a call doubles no container, volume,
mount or variable. Needs is false after Apply, and Apply changes a pod just if Needs says so. -/
theorem handle_again (wh : AuthBridgeWebhook) (cl : Cluster) (ns : String) (pod : Pod) :
    (wh.admitPod cl ns pod).bind (wh.admitPod cl ns) = wh.admitPod cl ns pod ∧
      (∀ n injected, (run (wh.step cl ns) ⟨pod, injected⟩ (List.replicate (n + 1) .call)).map
        Admission.pod = wh.admitPod cl ns pod) ∧
      (∀ pod', wh.admitPod cl ns pod = some pod' → pod.spec.NoneDoubled pod'.spec) ∧
      (∀ annotations spec, needsKeycloakClientCredentialsVolumePatch annotations
        (applyKeycloakClientCredentialsSecretVolumes annotations spec) = false) ∧
      ∀ annotations spec, needsKeycloakClientCredentialsVolumePatch annotations spec = true ↔
        applyKeycloakClientCredentialsSecretVolumes annotations spec ≠ spec := by
  refine ⟨?_, fun n injected => run_calls ⟨pod, injected⟩ n, fun pod' => noneDoubled_of_admitPod,
    needs_apply, needs_iff_apply_ne⟩
  cases hcall : wh.admitPod cl ns pod with
  | none => rfl
  | some pod' => exact admitPod_of_admitted hcall

end AuthBridgeWebhook

end Rossoctl.Webhook
