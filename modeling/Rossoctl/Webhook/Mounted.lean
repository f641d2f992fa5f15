import Rossoctl.Webhook.Admission
import Rossoctl.Webhook.Collisions
import Rossoctl.Webhook.Interception

/-!
# The mounted configuration of a pod

A pod that has been injected (`Rossoctl.Webhook.PodMutator.injectAuthBridge`) mounts the
ConfigMap with the configuration of its agent for as long as it runs. The ConfigMap is called
after the workload, without its kind, and every injection for a workload of that name applies it
again. The ports of the pod stay as they were built; the listeners in the ConfigMap are those of
the last injection.

A history of a namespace is a run (`Rossoctl.run`) of admissions, each with a pod and with the
answers of the API server at that time. `Rossoctl.Webhook.AuthBridgeWebhook.mounted_iff` says in
which histories every pod has the configuration it was built for, at any time.
-/

namespace Rossoctl.Webhook

open Kube List PodMutator

/-! ### Pods that run with a proxy sidecar -/

/-- The kinds of workloads, in the order in which owners are looked for. -/
def workloadKinds : List String := ["Deployment", "StatefulSet", "Sandbox"]

/-- A pod of a workload that was injected in the proxy-sidecar or lite mode. -/
structure Running where
  crName : String
  kind : String
  /-- The ports that it was built with. -/
  plan : PortPlan
  spec : PodSpec

/-- **A namespace**: the ConfigMaps that the webhook has applied, and the pods. -/
structure Namespace where
  configMaps : GoMap String ConfigMap := ∅
  pods : List Running := []

/-- The creation of a pod, and what the API server answers during its admission. -/
structure Arrival where
  cluster : Cluster
  pod : Pod

/-- The key of the listener of inbound traffic. -/
def PortPlan.inboundKey (plan : PortPlan) : String :=
  if plan.transparent then "transparent_inbound_addr" else "reverse_proxy_addr"

/-- The ConfigMap that a pod mounts as its runtime configuration. -/
def configMapOf (spec : PodSpec) : Option String :=
  match spec.volumes.find? fun v => v.name = authBridgeRuntimeConfigMapName with
  | some ⟨_, .configMap name _⟩ => some name
  | _ => none

/-- The value of `HTTP_PROXY` in a container, if there is one. -/
def httpProxy (c : Container) : Option String :=
  (c.env.find? fun e => e.name = "HTTP_PROXY").map EnvVar.value

namespace PodMutator

variable (m : PodMutator)

/-- The ports that an injection in the proxy-sidecar or lite mode asks for. -/
def asked (cl : Cluster) (w : Workload) (spec : PodSpec) : Option PortPlan :=
  if resolveAuthBridgeMode m.codec cl.namespaceConfig w.annotations = modeProxySidecar ∨
      resolveAuthBridgeMode m.codec cl.namespaceConfig w.annotations = modeLite then
    match resolveEgressEnforcement m.codec m.platform cl.namespaceConfig with
    | .error _ => none
    | .ok egress =>
      (planPorts m.platform spec (m.settings cl w egress).inboundInterception).toOption
  else none

end PodMutator

namespace AuthBridgeWebhook

variable (wh : AuthBridgeWebhook)

/-- The pod of an admission, if it runs with a proxy sidecar from then on. -/
def running (ns : String) (a : Arrival) : Option Running :=
  let w := wh.workloadOf ns a.pod
  if isAlreadyInjected a.pod.spec = false ∧ w.kind ∈ workloadKinds then
    match wh.mutator.asked a.cluster w a.pod.spec,
        (wh.mutator.injectAuthBridge a.cluster w a.pod.spec).injected? with
    | some plan, some spec => some { crName := w.crName, kind := w.kind, plan, spec }
    | _, _ => none
  else none

/-- **One admission.** Server-side apply replaces what the webhook has applied before. -/
def receive (ns : String) (s : Namespace) (a : Arrival) : Option Namespace :=
  some
    { configMaps := (wh.handlePod a.cluster ns a.pod).1.foldl (fun m cm => m.insert cm.name cm)
        s.configMaps
      pods := s.pods ++ (wh.running ns a).toList }

/-! ### What is to be shown -/

/-- The document says that the sidecar listens where it was built to listen. -/
structure Listens (document : Members) (plan : PortPlan) : Prop where
  forward : listenerText document "forward_proxy_addr" =
    some (":" ++ toString plan.forwardProxyPort)
  inbound : listenerText document plan.inboundKey =
    some (":" ++ toString (plan.inboundPort wh.mutator.platform))

/-- **A pod has its own configuration**: the ConfigMap that it mounts says so, and its workload
owns it. -/
def Mounts (s : Namespace) (r : Running) : Prop :=
  ∃ name cm document owner, configMapOf r.spec = some name ∧ s.configMaps.lookup name = some cm ∧
    cm.data = .config document ∧ wh.Listens document r.plan ∧ cm.owner = some owner ∧
    owner.kind = r.kind ∧ owner.name = r.crName

/-- What the ports of a pod are: those of its sidecar, and of the `HTTP_PROXY` of every other
container that did not bring its own. -/
structure BuiltWith (submitted : PodSpec) (r : Running) : Prop where
  sidecar : ∃ c ∈ r.spec.containers, c.name = authBridgeProxyContainerName ∧
    c.ports.map ContainerPort.containerPort =
      [r.plan.inboundPort wh.mutator.platform, r.plan.forwardProxyPort]
  httpProxy : ∀ c ∈ r.spec.containers, c.name ≠ authBridgeProxyContainerName →
    ∃ c₀ ∈ submitted.containers, c₀.name = c.name ∧ httpProxy c = (httpProxy c₀ <|>
        some ("http://127.0.0.1:" ++ toString r.plan.forwardProxyPort))

end AuthBridgeWebhook

/-! ### Which admissions do no harm -/

/-- The kind of the first workload of the name, over the kinds. -/
def firstKind (cl : Cluster) : Option String :=
  workloadKinds.find? fun kind => (cl.getWorkload kind).isSome

/-- **The same listeners**, seen from a pod that was built with some ports: an injection asks for
these ports. Where it does not set a listener, the configuration of the namespace may. -/
def SameListeners (cfg : PlatformConfig) (base : Members) (asked : Option PortPlan)
    (plan : PortPlan) : Prop :=
  match asked with
  | some new => new.forwardProxyPort = plan.forwardProxyPort ∧
      if new.transparent = plan.transparent then new.inboundPort cfg = plan.inboundPort cfg
      else listenerText base plan.inboundKey = some (":" ++ toString (plan.inboundPort cfg))
  | none =>
    listenerText base "forward_proxy_addr" = some (":" ++ toString plan.forwardProxyPort) ∧
      listenerText base plan.inboundKey = some (":" ++ toString (plan.inboundPort cfg))

namespace AuthBridgeWebhook

variable (wh : AuthBridgeWebhook)

/-- The runtime configuration of the namespace. -/
def base (a : Arrival) : Members :=
  (wh.mutator.baseDocument a.cluster.namespaceConfig.authBridgeRuntimeYAML).toOption.getD []

/-- The pods of a name are not affected: if the admission applies anything, the first workload of
the name is theirs, and the listeners are the same. -/
def SparesOthers (ns : String) (s : Namespace) (a : Arrival) : Prop :=
  (wh.handlePod a.cluster ns a.pod).1 ≠ [] →
    ∀ r ∈ s.pods, r.crName = (wh.workloadOf ns a.pod).crName → firstKind a.cluster = some r.kind ∧
        SameListeners wh.mutator.platform (wh.base a)
          (wh.mutator.asked a.cluster (wh.workloadOf ns a.pod) a.pod.spec) r.plan

/-- The pod itself gets its own: the first workload of the name is its, and it does not bring
another volume in place of the configuration. -/
def SuitsItself (ns : String) (a : Arrival) : Prop :=
  ∀ r, wh.running ns a = some r → firstKind a.cluster = some r.kind ∧
      (volumeExists a.pod.spec.volumes authBridgeRuntimeConfigMapName = true →
        configMapOf a.pod.spec = some (perAgentConfigMapName r.crName))

/-- **An admission without harm.** -/
def Harmless (ns : String) (s : Namespace) (a : Arrival) : Prop :=
  wh.SparesOthers ns s a ∧ wh.SuitsItself ns a

end AuthBridgeWebhook

/-! ### Owners and listeners -/

theorem buildOwnerReference_kind (cl : Cluster) (crName : String) :
    (buildOwnerReference cl crName).map OwnerReference.kind = firstKind cl := by
  rw [buildOwnerReference, firstKind, workloadKinds]
  cases hd : cl.getWorkload "Deployment" <;> cases hs : cl.getWorkload "StatefulSet" <;>
    cases hb : cl.getWorkload "Sandbox" <;> simp [hd, hs, hb]

variable {c : Container} {plan : PortPlan} {name : String} {cs : List Container} {m : PodMutator}
  {cl : Cluster} {w : Workload}

theorem name_of_buildOwnerReference {crName : String} {owner : OwnerReference}
    (h : buildOwnerReference cl crName = some owner) : owner.name = crName := by
  obtain ⟨kind, -, h⟩ := exists_of_findSome?_eq_some h
  obtain ⟨uid, -, rfl⟩ := Option.map_eq_some_iff.mp h
  rfl

theorem owner_iff (cl : Cluster) (crName kind : String) :
    (∃ owner, buildOwnerReference cl crName = some owner ∧ owner.kind = kind ∧
      owner.name = crName) ↔ firstKind cl = some kind := by
  rw [← buildOwnerReference_kind cl crName, Option.map_eq_some_iff]
  refine exists_congr fun owner => ⟨fun ⟨h, hkind, _⟩ => ⟨h, hkind⟩, fun ⟨h, hkind⟩ => ?_⟩
  exact ⟨h, hkind, name_of_buildOwnerReference h⟩

theorem perAgentConfigMapName_inj {n n' : String}
    (h : perAgentConfigMapName n = perAgentConfigMapName n') : n = n' :=
  (String.append_right_inj _).mp h

/-- The listeners that are set for the ports that an injection asks for. -/
def overridesOf (cfg : PlatformConfig) (asked : Option PortPlan) : List (String × String) :=
  (asked.map (listenerOverrides cfg)).getD []

/-- **What a document says of the listeners of a pod** depends on the ports that were asked for. -/
theorem listens_iff {wh : AuthBridgeWebhook} {document base : Members} {asked : Option PortPlan}
    (h : ∀ key, listenerText document key =
      ((overridesOf wh.mutator.platform asked).reverse.lookup key <|> listenerText base key)) :
    wh.Listens document plan ↔ SameListeners wh.mutator.platform base asked plan := by
  have hport (p q : Int) : some (":" ++ toString p) = some (":" ++ toString q) ↔ p = q :=
    ⟨port_of_addr, fun h => by rw [h]⟩
  have hlistens : wh.Listens document plan ↔ _ ∧ _ := ⟨fun h => ⟨h.1, h.2⟩, fun h => ⟨h.1, h.2⟩⟩
  rw [hlistens, h, h]
  cases asked with
  | none => rfl
  | some new =>
    have hforward : (overridesOf wh.mutator.platform (some new)).reverse.lookup
        "forward_proxy_addr" = some (":" ++ toString new.forwardProxyPort) := by
      rw [overridesOf, Option.map_some, Option.getD_some, listenerOverrides]
      cases new.transparent <;> rfl
    rw [hforward]
    refine and_congr (hport _ _) ?_
    rw [overridesOf, Option.map_some, Option.getD_some, listenerOverrides, PortPlan.inboundKey]
    cases hnew : new.transparent <;> cases hplan : plan.transparent
    · exact (hport _ _).trans (by rw [PortPlan.inboundPort, PortPlan.inboundPort, hnew, hplan]; rfl)
    · rfl
    · rfl
    · exact (hport _ _).trans (by rw [PortPlan.inboundPort, PortPlan.inboundPort, hnew, hplan]; rfl)

/-! ### Volumes -/

/-- The first volume of a name is one that was there, or the first that is added. -/
theorem find?_foldl_addVolumeIfMissing (new vs : List Volume) (name : String) :
    (new.foldl addVolumeIfMissing vs).find? (fun v => v.name = name) =
      (vs.find? (fun v => v.name = name)).or (new.find? fun v => v.name = name) := by
  induction new generalizing vs with
  | nil => rw [foldl_nil, find?_nil, Option.or_none]
  | cons v new ih =>
    rw [foldl_cons, ih, addVolumeIfMissing]
    cases hfound : vs.find? (fun v => v.name = name) with
    | some u =>
      split
      · rw [hfound, Option.some_or, Option.some_or]
      · rw [find?_append, hfound, Option.some_or, Option.some_or, Option.some_or]
    | none =>
      split
      · rename_i hthere
        have hne : v.name ≠ name := by
          rintro rfl
          obtain ⟨u, hu, hname⟩ := any_eq_true.mp hthere
          exact absurd hname (find?_eq_none.mp hfound u hu)
        rw [hfound, find?_cons_of_neg (by simpa using hne)]
      · rw [find?_append, hfound, Option.none_or, Option.none_or, ← find?_append, singleton_append]

theorem find?_foldl_of_some (new : List Volume) {vs : List Volume} {v : Volume}
    (h : vs.find? (fun v => v.name = name) = some v) :
    (new.foldl addVolumeIfMissing vs).find? (fun v => v.name = name) = some v := by
  rw [find?_foldl_addVolumeIfMissing, h, Option.some_or]

theorem find?_eq_none_iff_volumeExists (vs : List Volume) (name : String) :
    vs.find? (fun v => v.name = name) = none ↔ volumeExists vs name = false := by
  rw [find?_eq_none, volumeExists, any_eq_false]

theorem find?_agentVolumes (m : PodMutator) (spireEnabled : Bool) (cmName routesCMName : String) :
    (m.agentVolumes spireEnabled cmName routesCMName).find?
        (fun v => v.name = authBridgeRuntimeConfigMapName) =
      some ⟨authBridgeRuntimeConfigMapName, .configMap cmName (some true)⟩ := by
  have hvolumes : m.requiredVolumes spireEnabled = buildResolvedVolumes spireEnabled "" := by
    rw [requiredVolumes]
    split
    · rfl
    · cases spireEnabled <;> rfl
  rw [agentVolumes, hvolumes]
  cases spireEnabled <;> by_cases hroutes : routesCMName = ""
  · rw [if_pos hroutes]
    rfl
  · rw [if_neg hroutes]
    rfl
  · rw [if_pos hroutes]
    rfl
  · rw [if_neg hroutes]
    rfl

/-- What is added after the volumes of an agent does not come before them. -/
theorem find?_volumes_proxyPod (m : PodMutator) (ns : NamespaceConfig) (w : Workload) (r : Resolved)
    (plan : PortPlan) (cmName routesCMName : String) (pod : PodSpec) (name : String) {v : Volume}
    (h : (pod.volumes.find? (fun v => v.name = name)).or
      ((m.agentVolumes r.spireEnabled cmName routesCMName).find? fun v => v.name = name) = some v) :
    (m.proxyPod ns w r plan cmName routesCMName pod).volumes.find? (fun v => v.name = name) =
      some v := by
  rw [← find?_foldl_addVolumeIfMissing] at h
  have hcredentials (pod : PodSpec) (h : pod.volumes.find? (fun v => v.name = name) = some v) :
      (applyKeycloakClientCredentialsSecretVolumes w.annotations pod).volumes.find?
        (fun v => v.name = name) = some v := by
    rw [applyKeycloakClientCredentialsSecretVolumes]
    split
    · exact h
    · exact find?_foldl_of_some [_] h
  have hbridge (pod : PodSpec) (h : pod.volumes.find? (fun v => v.name = name) = some v) :
      (applyTLSBridgeMounts w.crName pod).volumes.find? (fun v => v.name = name) = some v :=
    find?_foldl_of_some [tlsBridgeCAVolume w.crName, tlsBridgeCACertVolume w.crName] h
  have hgroup (pod : PodSpec) :
      (if r.spireEnabled then ensureFSGroup pod else pod).volumes = pod.volumes := by
    split <;> rfl
  rw [proxyPod, hgroup]
  split
  · exact hbridge _ (hcredentials _ h)
  · exact hcredentials _ h

/-- **The configuration that a pod mounts** is that of its agent, unless it brings a volume of
that name. -/
theorem configMapOf_proxyPod (m : PodMutator) (ns : NamespaceConfig) (w : Workload) (r : Resolved)
    (plan : PortPlan) (cmName routesCMName : String) (pod : PodSpec) :
    configMapOf (m.proxyPod ns w r plan cmName routesCMName pod) =
      if volumeExists pod.volumes authBridgeRuntimeConfigMapName then configMapOf pod
      else some cmName := by
  have hvolume (v : Volume) := find?_volumes_proxyPod (v := v) m ns w r plan cmName routesCMName pod
    authBridgeRuntimeConfigMapName
  rw [configMapOf, configMapOf]
  cases hfound : pod.volumes.find? (fun v => v.name = authBridgeRuntimeConfigMapName) with
  | some v =>
    have hexists : volumeExists pod.volumes authBridgeRuntimeConfigMapName = true := by
      by_contra hnot
      rw [Bool.not_eq_true, ← find?_eq_none_iff_volumeExists, hfound] at hnot
      cases hnot
    rw [hfound] at hvolume
    rw [hvolume v (Option.some_or), if_pos hexists]
  | none =>
    have hnot := (find?_eq_none_iff_volumeExists _ _).mp hfound
    rw [hfound, Option.none_or, find?_agentVolumes] at hvolume
    rw [hvolume _ rfl, hnot, if_neg Bool.false_ne_true]

/-! ### Variables -/

theorem find?_setEnv_of_ne {key : String} (h : name ≠ key) (value : String) (es : List EnvVar) :
    (setEnv name value es).find? (fun e => e.name = key) = es.find? fun e => e.name = key := by
  induction es with
  | nil => rw [setEnv, find?_cons_of_neg (by simpa using h)]
  | cons e es ih =>
    rw [setEnv]
    split
    · rename_i hname
      have hne : e.name ≠ key := fun hkey => h (hname.symm.trans hkey)
      rw [find?_cons_of_neg (by simpa using hne), find?_cons_of_neg (by simpa using hne)]
    · rw [find?_cons, find?_cons, ih]

theorem httpProxy_setOrAddEnv (h : name ≠ "HTTP_PROXY") (value : String) (c : Container) :
    httpProxy (setOrAddEnv c name value) = httpProxy c := by
  rw [httpProxy, setOrAddEnv, find?_setEnv_of_ne h, httpProxy]

theorem httpProxy_injectHTTPProxyEnv (port : Int) (c : Container) :
    httpProxy (injectHTTPProxyEnv port c) =
      (httpProxy c <|> some ("http://127.0.0.1:" ++ toString port)) := by
  have hother (envs : List EnvVar) (e : EnvVar) (h : e.name ≠ "HTTP_PROXY") :
      (addEnvIfMissing envs e).find? (fun e => e.name = "HTTP_PROXY") =
        envs.find? fun e => e.name = "HTTP_PROXY" := by
    rw [addEnvIfMissing]
    split
    · rfl
    · rw [find?_append, find?_cons_of_neg (by simpa using h), find?_nil, Option.or_none]
  rw [httpProxy, injectHTTPProxyEnv, foldl_cons, foldl_cons, foldl_cons,
    foldl_nil, hother _ _ (show "NO_PROXY" ≠ "HTTP_PROXY" by decide),
    hother _ _ (show "HTTPS_PROXY" ≠ "HTTP_PROXY" by decide), addEnvIfMissing, httpProxy]
  cases hfound : c.env.find? (fun e => e.name = "HTTP_PROXY") with
  | some e =>
    have hname := find?_some (p := fun e : EnvVar => decide (e.name = "HTTP_PROXY"))
      hfound
    have hexists : envExists c.env "HTTP_PROXY" = true :=
      any_eq_true.mpr ⟨e, mem_of_find?_eq_some hfound, hname⟩
    rw [if_pos hexists, hfound]
    rfl
  | none =>
    have hnot : envExists c.env "HTTP_PROXY" = false :=
      any_eq_false.mpr fun e he => find?_eq_none.mp hfound e he
    rw [hnot, if_neg Bool.false_ne_true, find?_append, hfound]
    rfl

/-- A helper that keeps the name of a container and its `HTTP_PROXY`. -/
def KeepsProxy (f : Container → Container) : Prop :=
  ∀ c, (f c).name = c.name ∧ httpProxy (f c) = httpProxy c

theorem keepsProxy_mountCredentials (volName : String) : KeepsProxy (mountCredentials volName) := by
  intro c
  have happend (subPath mountPath : String) (c : Container) :
      (appendSubPathMount volName subPath mountPath c).name = c.name ∧
        (appendSubPathMount volName subPath mountPath c).env = c.env := by
    rw [appendSubPathMount]
    split <;> exact ⟨rfl, rfl⟩
  rw [mountCredentials]
  split
  · rw [httpProxy, (happend _ _ _).1, (happend _ _ _).1, (happend _ _ _).2, (happend _ _ _).2]
    exact ⟨rfl, rfl⟩
  · exact ⟨rfl, rfl⟩

theorem keepsProxy_mountTLSBridge : KeepsProxy mountTLSBridge := by
  intro c
  have hmount (vm : VolumeMount) (c : Container) : (addVolumeMountIfMissing vm c).name = c.name ∧
      (addVolumeMountIfMissing vm c).env = c.env := by
    rw [addVolumeMountIfMissing]
    split <;> exact ⟨rfl, rfl⟩
  have htrust (names : List String) (hnames : "HTTP_PROXY" ∉ names) (value : String)
      (c : Container) :
      (names.foldl (fun c env => setOrAddEnv c env value) c).name = c.name ∧
        httpProxy (names.foldl (fun c env => setOrAddEnv c env value) c) = httpProxy c := by
    induction names generalizing c with
    | nil => exact ⟨rfl, rfl⟩
    | cons name names ih =>
      obtain ⟨hne, hnames⟩ := not_or.mp (mt mem_cons.mpr hnames)
      obtain ⟨hname, hproxy⟩ := ih hnames (setOrAddEnv c name value)
      exact ⟨hname, hproxy.trans (httpProxy_setOrAddEnv (Ne.symm hne) value c)⟩
  rw [mountTLSBridge]
  split
  · rw [httpProxy, (hmount _ _).1, (hmount _ _).2]
    exact ⟨rfl, rfl⟩
  · obtain ⟨hname, hproxy⟩ := htrust tlsBridgeTrustEnvVars (by decide)
      (tlsBridgeCAMountPath ++ "/ca.crt") (addVolumeMountIfMissing
        { name := tlsBridgeCACertVolumeName, mountPath := tlsBridgeCAMountPath,
          readOnly := true } c)
    rw [hname, hproxy, httpProxy, (hmount _ _).1, (hmount _ _).2]
    exact ⟨rfl, rfl⟩

theorem exists_of_mem_relocateAgent {new : Int} (h : c ∈ relocateAgent new cs) :
    ∃ c₀ ∈ cs, c₀.name = c.name ∧ httpProxy c = httpProxy c₀ := by
  induction cs with
  | nil => exact absurd h not_mem_nil
  | cons c' cs ih =>
    rw [relocateAgent] at h
    have hrest (h : c ∈ c' :: relocateAgent new cs) :
        ∃ c₀ ∈ c' :: cs, c₀.name = c.name ∧ httpProxy c = httpProxy c₀ := by
      obtain rfl | h := mem_cons.mp h
      · exact ⟨c, mem_cons_self, rfl, rfl⟩
      · obtain ⟨c₀, hc₀, hsame⟩ := ih h
        exact ⟨c₀, mem_cons_of_mem _ hc₀, hsame⟩
    split at h
    · exact hrest h
    · split at h
      · exact hrest h
      · obtain rfl | h := mem_cons.mp h
        · refine ⟨c', mem_cons_self, rfl, ?_⟩
          rw [httpProxy_setOrAddEnv (by decide)]
          rfl
        · exact ⟨c, mem_cons_of_mem _ h, rfl, rfl⟩

variable {f : Container → Container} {ns : NamespaceConfig} {r : Resolved}

theorem mem_of_mem_updateFirst (hf : ∀ c : Container, (f c).name = c.name) (hne : c.name ≠ name)
    (h : c ∈ updateFirst name f cs) : c ∈ cs := by
  induction cs with
  | nil => exact h
  | cons c' cs ih =>
    rw [updateFirst] at h
    split at h
    · rename_i hname
      obtain rfl | h := mem_cons.mp h
      · exact absurd ((hf c').trans hname) hne
      · exact mem_cons_of_mem _ h
    · obtain rfl | h := mem_cons.mp h
      · exact mem_cons_self
      · exact mem_cons_of_mem _ (ih h)

theorem mem_addContainerIfMissing {c' : Container} (h : c ∈ addContainerIfMissing cs c') :
    c ∈ cs ∨ c = c' := by
  rw [addContainerIfMissing] at h
  split at h
  · exact .inl h
  · rwa [mem_append, mem_singleton] at h

/-- **The variables of a plan**: every container but the sidecar has its own `HTTP_PROXY`, or that
of the forward proxy. -/
theorem httpProxy_proxyContainers
    {containers : List Container} (h : c ∈ m.proxyContainers ns r plan containers)
    (hne : c.name ≠ authBridgeProxyContainerName) :
    ∃ c₀ ∈ containers, c₀.name = c.name ∧ httpProxy c = (httpProxy c₀ <|>
        some ("http://127.0.0.1:" ++ toString plan.forwardProxyPort)) := by
  obtain ⟨c₁, hc₁, rfl⟩ := mem_map.mp h
  have hname : c₁.name ≠ authBridgeProxyContainerName := by
    intro hname
    rw [if_pos hname] at hne
    exact hne hname
  rw [if_neg hname, httpProxy_injectHTTPProxyEnv]
  have hmem := mem_of_mem_updateFirst (f := fun c => setOrAddEnv c "MTLS_MODE" r.mtlsMode)
    (fun _ => rfl) hname hc₁
  have hmoved : c₁ ∈ if plan.transparent then containers
      else relocateAgent plan.newAgentPort containers := by
    obtain hmem | hsidecar := mem_addContainerIfMissing hmem
    · exact hmem
    · rw [hsidecar, proxySidecar_name] at hname
      exact absurd rfl hname
  split at hmoved
  · exact ⟨c₁, hmoved, rfl, rfl⟩
  · obtain ⟨c₀, hc₀, hname₀, hproxy⟩ := exists_of_mem_relocateAgent hmoved
    exact ⟨c₀, hc₀, hname₀, by rw [hproxy]⟩

theorem exists_of_mem_map (hf : KeepsProxy f) (h : c ∈ cs.map f) :
    ∃ c₀ ∈ cs, c₀.name = c.name ∧ httpProxy c = httpProxy c₀ := by
  obtain ⟨c₀, hc₀, rfl⟩ := mem_map.mp h
  exact ⟨c₀, hc₀, (hf c₀).1.symm, (hf c₀).2⟩

theorem containers_applyTLSBridgeMounts (workloadName : String) (pod : PodSpec) :
    (applyTLSBridgeMounts workloadName pod).containers = pod.containers.map mountTLSBridge := rfl

theorem exists_of_mem_proxyPod {cmName routesCMName : String} {pod : PodSpec}
    (h : c ∈ (m.proxyPod ns w r plan cmName routesCMName pod).containers) :
    ∃ c₁ ∈ m.proxyContainers ns r plan pod.containers, c₁.name = c.name ∧
      httpProxy c = httpProxy c₁ := by
  have hgroup (pod : PodSpec) :
      (if r.spireEnabled then ensureFSGroup pod else pod).containers = pod.containers := by
    split <;> rfl
  have hcredentials {pod : PodSpec} {c : Container}
      (h : c ∈ (applyKeycloakClientCredentialsSecretVolumes w.annotations pod).containers) :
      ∃ c₀ ∈ pod.containers, c₀.name = c.name ∧ httpProxy c = httpProxy c₀ := by
    rw [applyKeycloakClientCredentialsSecretVolumes] at h
    split at h
    · exact ⟨c, h, rfl, rfl⟩
    · exact exists_of_mem_map (keepsProxy_mountCredentials _) h
  rw [proxyPod, hgroup] at h
  split at h
  · rw [containers_applyTLSBridgeMounts] at h
    obtain ⟨c₁, hc₁, hname₁, hproxy₁⟩ := exists_of_mem_map keepsProxy_mountTLSBridge h
    obtain ⟨c₂, hc₂, hname₂, hproxy₂⟩ := hcredentials hc₁
    exact ⟨c₂, hc₂, hname₂.trans hname₁, hproxy₁.trans hproxy₂⟩
  · exact hcredentials h

/-! ### One admission -/

namespace AuthBridgeWebhook

variable {wh : AuthBridgeWebhook} {ns : String} {a : Arrival} {r : Running}

theorem mode_of_asked {spec : PodSpec} (h : m.asked cl w spec = some plan) :
    resolveAuthBridgeMode m.codec cl.namespaceConfig w.annotations = modeProxySidecar ∨
      resolveAuthBridgeMode m.codec cl.namespaceConfig w.annotations = modeLite := by
  by_contra hmode
  rw [asked, if_neg hmode] at h
  cases h

theorem asked_eq {spec : PodSpec} {egress : String}
    (hmode : resolveAuthBridgeMode m.codec cl.namespaceConfig w.annotations = modeProxySidecar ∨
      resolveAuthBridgeMode m.codec cl.namespaceConfig w.annotations = modeLite)
    (hegress : resolveEgressEnforcement m.codec m.platform cl.namespaceConfig = .ok egress) :
    m.asked cl w spec =
      (planPorts m.platform spec (m.settings cl w egress).inboundInterception).toOption := by
  rw [asked, if_pos hmode, hegress]

/-- **What an injection applies**: nothing, or the document of the agent first, with the listeners
of the ports that were asked for. -/
theorem applied_cases (m : PodMutator) (cl : Cluster) (w : Workload) (spec : PodSpec) :
    (m.injectAuthBridge cl w spec).applied = [] ∨ ∃ base document rest,
        m.baseDocument cl.namespaceConfig.authBridgeRuntimeYAML = .ok base ∧
        (m.injectAuthBridge cl w spec).applied = agentConfigMap cl w.crName document :: rest ∧
        (∀ cm ∈ rest, cm.Other) ∧
        ∀ key, listenerText document key =
          ((overridesOf m.platform (m.asked cl w spec)).reverse.lookup key <|>
            listenerText base key) := by
  obtain ⟨happlied, -⟩ | ⟨egress, account, hegress, hout, -⟩ :=
    injectAuthBridge_cases m cl w spec
  · exact .inl happlied
  · rw [hout, injectMode]
    split
    · exact .inl rfl
    · split
      · rename_i hmode
        rw [injectProxySidecar]
        split
        · exact .inl rfl
        · rename_i plan hplan
          have hasked : m.asked cl w spec = some plan := by
            have hplan' : planPorts m.platform spec
                (m.settings cl w egress).inboundInterception = .ok plan := hplan
            rw [asked_eq hmode hegress, hplan']
            rfl
          obtain ⟨e, hensure⟩ | ⟨document, rest, result, hdocument, hensure, hrest, -⟩ :=
            m.ensurePerAgentConfigMap_cases cl w.ns w.crName modeProxySidecar cl.namespaceConfig
              (listenerOverrides m.platform plan) (m.settings cl w egress).mtlsMode
              (m.settings cl w egress).tlsBridgeMode (m.settings cl w egress).spireEnabled
              (findAgentRuntime cl w)
          · rw [hensure]
            exact .inl rfl
          · obtain ⟨base, hbase, htexts⟩ := listenerText_perAgentConfig hdocument
            refine .inr ⟨base, document, rest, hbase, ?_, hrest, ?_⟩
            · rw [hensure]
              cases result with
              | error e => rfl
              | ok names => rfl
            · rw [hasked]
              exact htexts
      · rename_i hmode
        have hasked : m.asked cl w spec = none := if_neg hmode
        rw [injectEnvoySidecar, hasked]
        obtain ⟨e, hensure⟩ | ⟨document, rest, result, hdocument, hensure, hrest, -⟩ :=
          m.ensurePerAgentConfigMap_cases cl w.ns w.crName modeEnvoySidecar cl.namespaceConfig
            [] (m.settings cl w egress).mtlsMode "" (m.settings cl w egress).spireEnabled
            (findAgentRuntime cl w)
        · rw [hensure]
          exact .inl rfl
        · obtain ⟨base, hbase, htexts⟩ := listenerText_perAgentConfig hdocument
          rw [hensure]
          cases result with
          | error e => exact .inr ⟨base, document, rest, hbase, rfl, hrest, htexts⟩
          | ok names =>
            have hothers (cm : ConfigMap) (hcm : cm ∈ rest ++ (m.ensurePerAgentEnvoyConfigMap cl
                w.ns w.crName cl.namespaceConfig (m.settings cl w egress).mtlsMode).1) :
                cm.Other := by
              obtain hcm | hcm := mem_append.mp hcm
              · exact hrest cm hcm
              · exact other_of_mem_ensurePerAgentEnvoyConfigMap hcm
            refine .inr ⟨base, document, _, hbase, ?_, hothers, htexts⟩
            rcases m.ensurePerAgentEnvoyConfigMap cl w.ns w.crName cl.namespaceConfig
              (m.settings cl w egress).mtlsMode with ⟨applied, e | name⟩
            · rfl
            · rfl

theorem running_spec (h : wh.running ns a = some r) :
    isAlreadyInjected a.pod.spec = false ∧ r.crName = (wh.workloadOf ns a.pod).crName ∧
      r.kind = (wh.workloadOf ns a.pod).kind ∧
      wh.mutator.asked a.cluster (wh.workloadOf ns a.pod) a.pod.spec = some r.plan ∧
      (wh.mutator.injectAuthBridge a.cluster (wh.workloadOf ns a.pod) a.pod.spec).result =
        .ok (some r.spec) := by
  rw [running] at h
  split at h
  · rename_i hnew
    split at h
    · rename_i plan spec hasked hinjected
      rw [← Option.some.inj h]
      exact ⟨hnew.1, rfl, rfl, hasked, Outcome.injected?_eq_some_iff.mp hinjected⟩
    · cases h
  · cases h

theorem proxyPod_of_running (h : wh.running ns a = some r) :
    ∃ egress document, wh.mutator.Proxied a.cluster (wh.workloadOf ns a.pod) a.pod.spec
        (wh.mutator.injectAuthBridge a.cluster (wh.workloadOf ns a.pod) a.pod.spec).applied r.spec
        egress r.plan document ∧
      ∃ routesCMName account, r.spec = wh.mutator.proxyPod a.cluster.namespaceConfig
        (wh.workloadOf ns a.pod) (wh.mutator.settings a.cluster (wh.workloadOf ns a.pod) egress)
        r.plan (perAgentConfigMapName r.crName) routesCMName
        { a.pod.spec with serviceAccountName := account } := by
  obtain ⟨-, hname, -, hasked, hresult⟩ := running_spec h
  have hmode := mode_of_asked hasked
  obtain ⟨egress, plan, document, hproxied, hpod⟩ :=
    proxyPod_of_injectAuthBridge hresult hmode
  rw [asked_eq hmode hproxied.egress_eq, hproxied.plan_eq] at hasked
  cases hasked
  rw [hname]
  exact ⟨egress, document, hproxied, hpod⟩

/-- **The ports that a pod is said to have are those it was built with.** -/
theorem builtWith_of_running (h : wh.running ns a = some r) : wh.BuiltWith a.pod.spec r := by
  obtain ⟨egress, document, hproxied, routesCMName, account, hspec⟩ := proxyPod_of_running h
  obtain ⟨hnew, -⟩ := running_spec h
  rw [isAlreadyInjected, Bool.or_eq_false_iff, Bool.or_eq_false_iff] at hnew
  refine ⟨hproxied.realised.sidecar hnew.1.2, fun c hc hne => ?_⟩
  rw [hspec] at hc
  obtain ⟨c₁, hc₁, hname₁, hproxy₁⟩ := exists_of_mem_proxyPod hc
  rw [← hname₁] at hne
  obtain ⟨c₀, hc₀, hname₀, hproxy₀⟩ := httpProxy_proxyContainers hc₁ hne
  exact ⟨c₀, hc₀, hname₀.trans hname₁, hproxy₁.trans hproxy₀⟩

theorem configMapOf_of_running (h : wh.running ns a = some r) : configMapOf r.spec =
      if volumeExists a.pod.spec.volumes authBridgeRuntimeConfigMapName then configMapOf a.pod.spec
      else some (perAgentConfigMapName r.crName) := by
  obtain ⟨egress, document, -, routesCMName, account, hspec⟩ := proxyPod_of_running h
  rw [hspec]
  exact configMapOf_proxyPod _ _ _ _ _ _ _ _

/-! ### The ConfigMaps -/

theorem lookup_foldl_other {rest : List ConfigMap} (hrest : ∀ cm ∈ rest, cm.Other)
    (m : GoMap String ConfigMap) (n : String) :
    (rest.foldl (fun m cm => m.insert cm.name cm) m).lookup (perAgentConfigMapName n) =
      m.lookup (perAgentConfigMapName n) := by
  induction rest generalizing m with
  | nil => rfl
  | cons cm rest ih =>
    rw [foldl_cons, ih (fun cm' hcm' => hrest cm' (mem_cons_of_mem _ hcm'))]
    exact AList.lookup_insert_ne ((hrest cm mem_cons_self).1 n).symm

/-- **What an admission leaves under the name of an agent**: what there was, or its document. -/
theorem receive_cases (wh : AuthBridgeWebhook) (ns : String) (a : Arrival) :
    (wh.handlePod a.cluster ns a.pod).1 = [] ∨
      ∃ document rest, (wh.handlePod a.cluster ns a.pod).1 =
          agentConfigMap a.cluster (wh.workloadOf ns a.pod).crName document :: rest ∧
        (∀ cm ∈ rest, cm.Other) ∧
        ∀ plan, wh.Listens document plan ↔ SameListeners wh.mutator.platform (wh.base a)
          (wh.mutator.asked a.cluster (wh.workloadOf ns a.pod) a.pod.spec) plan := by
  by_cases hnew : isAlreadyInjected a.pod.spec
  · rw [handlePod, if_pos hnew]
    exact .inl rfl
  · rw [handlePod, if_neg hnew]
    obtain happlied | ⟨base, document, rest, hbase, happlied, hrest, htexts⟩ :=
      applied_cases wh.mutator a.cluster (wh.workloadOf ns a.pod) a.pod.spec
    · exact .inl happlied
    · refine .inr ⟨document, rest, happlied, hrest, fun plan => ?_⟩
      rw [AuthBridgeWebhook.base, hbase]
      exact listens_iff htexts

/-- A pod that runs with a proxy sidecar has had its document applied. -/
theorem handlePod_ne_nil (h : wh.running ns a = some r) :
    (wh.handlePod a.cluster ns a.pod).1 ≠ [] := by
  obtain ⟨egress, document, hproxied, -⟩ := proxyPod_of_running h
  obtain ⟨hnew, -⟩ := running_spec h
  rw [handlePod, hnew, if_neg Bool.false_ne_true]
  intro (hnil : (wh.mutator.injectAuthBridge a.cluster (wh.workloadOf ns a.pod)
    a.pod.spec).applied = [])
  have hhead := hproxied.applied_eq
  rw [hnil] at hhead
  cases hhead

theorem sameListeners_of_running (h : wh.running ns a = some r) (base : Members) :
    SameListeners wh.mutator.platform base
      (wh.mutator.asked a.cluster (wh.workloadOf ns a.pod) a.pod.spec) r.plan := by
  obtain ⟨-, -, -, hasked, -⟩ := running_spec h
  rw [hasked, SameListeners, if_pos rfl]
  exact ⟨rfl, rfl⟩

/-- **The ConfigMaps of a namespace**: the configurations of agents are called after their
owners. -/
def Named (s : Namespace) : Prop :=
  ∀ name cm document owner, s.configMaps.lookup name = some cm → cm.data = .config document →
    cm.owner = some owner → name = perAgentConfigMapName owner.name

variable {s s' : Namespace}

theorem named_foldl {l : List ConfigMap}
    (hl : ∀ cm ∈ l, ∀ document owner, cm.data = .config document → cm.owner = some owner →
      cm.name = perAgentConfigMapName owner.name) (hs : Named s) (pods : List Running) :
    Named ⟨l.foldl (fun m cm => m.insert cm.name cm) s.configMaps, pods⟩ := by
  induction l generalizing s with
  | nil => exact hs
  | cons cm l ih =>
    refine ih (s := ⟨s.configMaps.insert cm.name cm, s.pods⟩)
      (fun cm' hcm' => hl cm' (mem_cons_of_mem _ hcm')) ?_
    intro name cm' document owner hlookup hdata howner
    rw [GoMap.lookup_insert_ite] at hlookup
    split at hlookup
    · rename_i hname
      cases hlookup
      rw [hname]
      exact hl cm mem_cons_self document owner hdata howner
    · exact hs name cm' document owner hlookup hdata howner

theorem named_receive (hs : Named s) (hstep : wh.receive ns s a = some s') : Named s' := by
  rw [← Option.some.inj hstep]
  refine named_foldl (fun cm hcm document owner hdata howner => ?_) hs _
  obtain hnil | ⟨document', rest, happlied, hrest, -⟩ := receive_cases wh ns a
  · rw [hnil] at hcm
    exact absurd hcm not_mem_nil
  · rw [happlied] at hcm
    obtain rfl | hcm := mem_cons.mp hcm
    · rw [name_of_buildOwnerReference howner]
      rfl
    · exact absurd hdata ((hrest cm hcm).2 document)

/-- With names like this, a pod mounts its own ConfigMap or has not its own configuration. -/
theorem mounts_iff (hs : Named s) :
    wh.Mounts s r ↔ configMapOf r.spec = some (perAgentConfigMapName r.crName) ∧
      ∃ cm document owner, s.configMaps.lookup (perAgentConfigMapName r.crName) = some cm ∧
        cm.data = .config document ∧ wh.Listens document r.plan ∧ cm.owner = some owner ∧
        owner.kind = r.kind ∧ owner.name = r.crName := by
  constructor
  · rintro ⟨name, cm, document, owner, hmount, hlookup, hdata, hlistens, howner, hkind, hname⟩
    obtain rfl : name = perAgentConfigMapName r.crName := by
      rw [hs name cm document owner hlookup hdata howner, hname]
    exact ⟨hmount, cm, document, owner, hlookup, hdata, hlistens, howner, hkind, hname⟩
  · rintro ⟨hmount, cm, document, owner, hrest⟩
    exact ⟨_, cm, document, owner, hmount, hrest⟩

/-! ### Whole histories -/

/-- **After an admission that has applied its document**, for the pods of the name: what counts is
the first kind, the listeners, and that they mount the ConfigMap. -/
theorem mounts_of_applied (hs : Named s) (hstep : wh.receive ns s a = some s')
    (happlied : (wh.handlePod a.cluster ns a.pod).1 ≠ [])
    (hname : r.crName = (wh.workloadOf ns a.pod).crName) :
    wh.Mounts s' r ↔ configMapOf r.spec = some (perAgentConfigMapName r.crName) ∧
      firstKind a.cluster = some r.kind ∧
      SameListeners wh.mutator.platform (wh.base a)
        (wh.mutator.asked a.cluster (wh.workloadOf ns a.pod) a.pod.spec) r.plan := by
  rw [mounts_iff (named_receive hs hstep)]
  obtain hnil | ⟨document, rest, hlist, hrest, hlistens⟩ := receive_cases wh ns a
  · exact absurd hnil happlied
  · have hlookup : s'.configMaps.lookup (perAgentConfigMapName r.crName) =
        some (agentConfigMap a.cluster r.crName document) := by
      rw [← Option.some.inj hstep, hlist, foldl_cons]
      rw [lookup_foldl_other hrest, hname]
      exact AList.lookup_insert _
    rw [hlookup, ← hlistens, ← owner_iff a.cluster r.crName r.kind]
    refine and_congr_right fun _ => ⟨?_, ?_⟩
    · rintro ⟨cm, document', owner, hcm, hdata, hlistens', howner, hkind⟩
      cases hcm
      obtain rfl : document = document' := ConfigMapData.config.inj hdata
      exact ⟨⟨owner, howner, hkind⟩, hlistens'⟩
    · rintro ⟨⟨owner, howner, hkind⟩, hlistens'⟩
      exact ⟨_, document, owner, rfl, rfl, hlistens', howner, hkind⟩

theorem mounts_of_not_applied (hs : Named s) (hstep : wh.receive ns s a = some s')
    (h : (wh.handlePod a.cluster ns a.pod).1 = [] ∨
      r.crName ≠ (wh.workloadOf ns a.pod).crName) : wh.Mounts s' r ↔ wh.Mounts s r := by
  have hlookup : s'.configMaps.lookup (perAgentConfigMapName r.crName) =
      s.configMaps.lookup (perAgentConfigMapName r.crName) := by
    rw [← Option.some.inj hstep]
    obtain hnil | ⟨document, rest, hlist, hrest, -⟩ := receive_cases wh ns a
    · rw [hnil, foldl_nil]
    · rw [hlist] at h ⊢
      have hname := h.resolve_left (cons_ne_nil _ _)
      rw [foldl_cons, lookup_foldl_other hrest]
      exact AList.lookup_insert_ne fun heq => hname (perAgentConfigMapName_inj heq)
  rw [mounts_iff hs, mounts_iff (named_receive hs hstep), hlookup]

/-- **One admission** keeps all pods at their configurations just if it does no harm. -/
theorem mounts_receive_iff (hs : Named s) (hmounts : ∀ r ∈ s.pods, wh.Mounts s r)
    (hstep : wh.receive ns s a = some s') :
    (∀ r ∈ s'.pods, wh.Mounts s' r) ↔ wh.Harmless ns s a := by
  have hpods : s'.pods = s.pods ++ (wh.running ns a).toList := by rw [← Option.some.inj hstep]
  have hmount {r : Running} (hr : r ∈ s.pods) :
      configMapOf r.spec = some (perAgentConfigMapName r.crName) :=
    ((mounts_iff hs).mp (hmounts r hr)).1
  simp only [hpods, mem_append, Option.mem_toList]
  constructor
  · intro h
    refine ⟨fun happlied r hr hname => ?_, fun r hr => ?_⟩
    · exact ((mounts_of_applied hs hstep happlied hname).mp (h r (.inl hr))).2
    · obtain ⟨-, hname, -⟩ := running_spec hr
      obtain ⟨hown, hkind, -⟩ := (mounts_of_applied hs hstep (handlePod_ne_nil hr) hname).mp
        (h r (.inr hr))
      refine ⟨hkind, fun hvolume => ?_⟩
      rwa [configMapOf_of_running hr, if_pos hvolume] at hown
  · rintro ⟨hspares, hsuits⟩ r (hr | hr)
    · by_cases hold : (wh.handlePod a.cluster ns a.pod).1 = [] ∨
          r.crName ≠ (wh.workloadOf ns a.pod).crName
      · exact (mounts_of_not_applied hs hstep hold).mpr (hmounts r hr)
      · obtain ⟨happlied, hname⟩ := not_or.mp hold
        rw [not_not] at hname
        exact (mounts_of_applied hs hstep happlied hname).mpr
          ⟨hmount hr, hspares happlied r hr hname⟩
    · obtain ⟨-, hname, -⟩ := running_spec hr
      obtain ⟨hkind, hvolume⟩ := hsuits r hr
      refine (mounts_of_applied hs hstep (handlePod_ne_nil hr) hname).mpr
        ⟨?_, hkind, sameListeners_of_running hr _⟩
      rw [configMapOf_of_running hr]
      split
      · rename_i hbrings
        exact hvolume hbrings
      · rfl

/-- **When every pod has its own configuration.** In a history of admissions every pod with a
proxy sidecar mounts, from its admission on, a ConfigMap that its own workload owns and that has
the listeners it was built with, just if none of the admissions does harm: the first workload of
the name – by kind – is that of the new pod and of all earlier ones, all ask for the same
listeners, and no pod brings the volume along. -/
theorem mounted_iff (wh : AuthBridgeWebhook) (ns : String) (arrivals : List Arrival) :
    ((∀ as s, as <+: arrivals → run (wh.receive ns) {} as = some s → ∀ r ∈ s.pods, wh.Mounts s r) ↔
      Rossoctl.Guarded (wh.receive ns) (wh.Harmless ns) {} arrivals) ∧
      ∀ a r, wh.running ns a = some r → wh.BuiltWith a.pod.spec r := by
  refine ⟨(guarded_iff_forall_isPrefix_of_invariant (J := Named)
    (I := fun s => ∀ r ∈ s.pods, wh.Mounts s r) (fun s a s' hs hstep => named_receive hs hstep)
    (fun s a s' hs hmounts hstep => mounts_receive_iff hs hmounts hstep)
    (fun s a hnone => by cases hnone) ?_ ?_ arrivals).symm, fun a r => builtWith_of_running⟩
  · exact fun name cm document owner hlookup => by cases hlookup
  · exact fun r hr => absurd hr not_mem_nil

/-- A pod of a revision of the Deployment `weather`. -/
def revision (hash : String) (port : Int) : Pod where
  generateName := "weather-" ++ hash ++ "-"
  labels := (AList.insert rossoctlTypeLabel rossoctlTypeAgent ∅ : StringMap).insert
    podTemplateHashKey hash
  owners := [⟨"ReplicaSet", "weather-" ++ hash, some true⟩]
  spec := agentPod [⟨"", port, "TCP"⟩]

/-- The declared port changes from one revision to the next. -/
def rollout : List Arrival :=
  [⟨plainCluster [], revision "7d4f8b9c5" 8000⟩, ⟨plainCluster [], revision "5c9b8f4d7" 9000⟩]

/-- A listener in a ConfigMap of a namespace. -/
def listenerAt (s : Namespace) (name key : String) : Option String :=
  (s.configMaps.lookup name).bind fun cm =>
    match cm.data with
    | .config document => listenerText document key
    | _ => none

/-- **A rollout**: the first pod of `weather` listens on 8000, the second on 9000. From then on the
ConfigMap that both mount says 9000, and the first pod does not have its own configuration. -/
theorem mounted_rollout : ∃ s, run (plainWebhook.receive "team1") {} rollout = some s ∧
      listenerAt s "authbridge-config-weather" "reverse_proxy_addr" = some ":9000" ∧
      s.pods.map (fun r => (r.kind, r.crName, r.plan.originalAgentPort)) =
        [("Deployment", "weather", 8000), ("Deployment", "weather", 9000)] ∧
      ∃ r ∈ s.pods, ¬ plainWebhook.Mounts s r := by
  have hrun : (run (plainWebhook.receive "team1") {} rollout).any (fun s =>
        listenerAt s "authbridge-config-weather" "reverse_proxy_addr" = some ":9000" &&
          s.pods.map (fun r => (r.kind, r.crName, r.plan.originalAgentPort)) =
            [("Deployment", "weather", 8000), ("Deployment", "weather", 9000)] &&
          s.pods.any fun r => configMapOf r.spec = some "authbridge-config-weather" &&
            r.plan.transparent = false && r.plan.originalAgentPort = 8000) = true := by
    decide +kernel
  obtain ⟨s, hs, hfacts⟩ := (Option.any_eq_true _ _).mp hrun
  simp only [Bool.and_eq_true, decide_eq_true_eq, any_eq_true] at hfacts
  obtain ⟨⟨hlistener, hpods⟩, r, hr, ⟨hmount, htransparent⟩, hport⟩ := hfacts
  refine ⟨s, hs, hlistener, hpods, r, hr, ?_⟩
  rintro ⟨name, cm, document, -, hname, hlookup, hdata, hlistens, -⟩
  cases hname.symm.trans hmount
  have hinbound := hlistens.inbound
  rw [PortPlan.inboundKey, PortPlan.inboundPort, htransparent, if_neg Bool.false_ne_true,
    if_neg Bool.false_ne_true, hport] at hinbound
  rw [listenerAt, hlookup, Option.bind_some, hdata] at hlistener
  exact absurd (hinbound.symm.trans hlistener) (by decide)

end AuthBridgeWebhook

end Rossoctl.Webhook
