import Rossoctl.Kube

/-!
# Pods, as the admission webhook sees them

The part of a pod specification that `internal/webhook/injector` reads and writes,
and its helpers on environments, mounts and volumes: `setOrAddEnv`,
`injectHTTPProxyEnv`, `addVolumeMountIfMissing`, `ensureFSGroup` and the mounts of
the Keycloak client credentials (`keycloak_client_credentials.go`).

All of these change the environment and the mounts of a container and nothing else
of it, and leave what was there in place. This is said once, by
`Rossoctl.Webhook.Container.Grown` and `Rossoctl.Webhook.PodSpec.Grown`, and each
helper has one lemma to that effect.
-/

namespace Rossoctl.Webhook

open Kube List

/-! ### Containers -/

/-- Where the value of a variable comes from, if it is not given. -/
inductive EnvVarSource where
  | fieldRef (fieldPath : String)
  | configMapKeyRef (name key : String) (optional : Bool)
  /-- A source that the webhook never writes. -/
  | other (text : String)
  deriving DecidableEq

/-- A variable of a container. -/
structure EnvVar where
  name : String
  value : String := ""
  valueFrom : Option EnvVarSource := none
  deriving DecidableEq

/-- A declared port. `containerPort` is an `int32` that the API server has not
validated yet. -/
structure ContainerPort where
  name : String := ""
  containerPort : Int
  protocol : String := "TCP"
  deriving DecidableEq

/-- A mount of a volume, or of one file of it. -/
structure VolumeMount where
  name : String
  mountPath : String
  subPath : String := ""
  readOnly : Bool := false
  deriving DecidableEq

/-- What a container may do, and as which user. -/
structure SecurityContext where
  runAsUser : Option Int := none
  runAsGroup : Option Int := none
  runAsNonRoot : Option Bool := none
  privileged : Option Bool := none
  allowPrivilegeEscalation : Option Bool := none
  capabilitiesAdd : List String := []
  capabilitiesDrop : List String := []
  deriving DecidableEq

/-- Requests and limits, by resource. -/
abbrev ResourceRequirements := List (String × String)

/-- A container of a pod, or an init container. -/
structure Container where
  name : String
  image : String := ""
  imagePullPolicy : String := ""
  args : List String := []
  env : List EnvVar := []
  ports : List ContainerPort := []
  resources : ResourceRequirements := []
  securityContext : Option SecurityContext := none
  volumeMounts : List VolumeMount := []
  /-- `Always` makes an init container run beside the containers. -/
  restartPolicy : Option String := none
  deriving DecidableEq

/-- The name of the container of the proxy-sidecar and lite modes. -/
def authBridgeProxyContainerName : String := "authbridge-proxy"

/-- The name of the container of the envoy-sidecar mode. -/
def envoyProxyContainerName : String := "envoy-proxy"

/-- The name of the init container that redirects the traffic. -/
def proxyInitContainerName : String := "proxy-init"

/-- The guard of every container that is injected: it goes by the name alone. -/
def containerExists (containers : List Container) (name : String) : Bool :=
  containers.any fun c => c.name = name

/-- A container is the one before with more variables, or more mounts, and perhaps
other values for its variables: all that the helpers of this file do to one. -/
def Container.Grown (c c' : Container) : Prop :=
  c' = { c with env := c'.env, volumeMounts := c'.volumeMounts } ∧
    (c.env.map EnvVar.name).Sublist (c'.env.map EnvVar.name) ∧
    c.volumeMounts.Sublist c'.volumeMounts

namespace Container

theorem Grown.refl (c : Container) : c.Grown c := ⟨rfl, .refl _, .refl _⟩

variable {a b : Container}

theorem Grown.trans {c : Container} (h : a.Grown b) (h' : b.Grown c) : a.Grown c := by
  obtain ⟨hb, hnames, hmounts⟩ := h
  obtain ⟨hc, hnames', hmounts'⟩ := h'
  refine ⟨?_, hnames.trans hnames', hmounts.trans hmounts'⟩
  rw [hc, hb]

theorem Grown.name_eq (h : a.Grown b) : b.name = a.name := by rw [h.1]

theorem Grown.ports_eq (h : a.Grown b) : b.ports = a.ports := by rw [h.1]

end Container

/-- Growing every container grows the list. -/
theorem forall₂_grown_map {f : Container → Container} (hf : ∀ c : Container, c.Grown (f c))
    (cs : List Container) : List.Forall₂ Container.Grown cs (cs.map f) := by
  induction cs with
  | nil => exact .nil
  | cons c cs ih => exact .cons (hf c) ih

theorem containerExists_iff {containers : List Container} {name : String} :
    containerExists containers name = true ↔ ∃ c ∈ containers, c.name = name := by
  simp [containerExists]

theorem containerExists_eq (containers : List Container) (name : String) :
    containerExists containers name = decide (name ∈ containers.map Container.name) := by
  rw [Bool.eq_iff_iff, containerExists_iff, decide_eq_true_iff, mem_map]

/-- Growing leaves the names of the containers as they are. -/
theorem map_name_of_grown {cs cs' : List Container} (h : List.Forall₂ Container.Grown cs cs') :
    cs'.map Container.name = cs.map Container.name := by
  induction h with
  | nil => rfl
  | cons hc _ ih => rw [map_cons, map_cons, ih, hc.name_eq]

/-! ### Variables -/

/-- A container has a variable of a name. -/
def envExists (envs : List EnvVar) (name : String) : Bool := envs.any fun e => e.name = name

/-- The loop of `setOrAddEnv`: the first variable of the name gets the value, and one
is added if there is none. -/
def setEnv (name value : String) : List EnvVar → List EnvVar
  | [] => [{ name, value }]
  | e :: es => if e.name = name then { e with value, valueFrom := none } :: es
      else e :: setEnv name value es

/-- `setOrAddEnv`: a variable is overwritten where it is there. -/
def setOrAddEnv (c : Container) (name value : String) : Container :=
  { c with env := setEnv name value c.env }

/-- The variables that `injectHTTPProxyEnv` adds one after the other, each where the
container has none of its name. -/
def addEnvIfMissing (envs : List EnvVar) (e : EnvVar) : List EnvVar :=
  if envExists envs e.name then envs else envs ++ [e]

/-- `injectHTTPProxyEnv`: clients that know the variables go through the forward proxy. -/
def injectHTTPProxyEnv (forwardProxyPort : Int) (c : Container) : Container :=
  let proxyURL := "http://127.0.0.1:" ++ toString forwardProxyPort
  { c with env := [{ name := "HTTP_PROXY", value := proxyURL },
      { name := "HTTPS_PROXY", value := proxyURL },
      { name := "NO_PROXY", value := "127.0.0.1,localhost" }].foldl addEnvIfMissing c.env }

/-- Overwriting a variable keeps all names. -/
theorem names_sublist_setEnv (name value : String) (es : List EnvVar) :
    (es.map EnvVar.name).Sublist ((setEnv name value es).map EnvVar.name) := by
  induction es with
  | nil => exact nil_sublist _
  | cons e es ih =>
    rw [setEnv]
    split
    · exact .refl _
    · exact ih.cons_cons _

theorem sublist_addEnvIfMissing (es : List EnvVar) (e : EnvVar) :
    es.Sublist (addEnvIfMissing es e) := by
  rw [addEnvIfMissing]
  split
  · exact .refl _
  · exact sublist_append_left _ _

/-- Adding variables keeps those that are there. -/
theorem sublist_foldl_addEnvIfMissing (new es : List EnvVar) :
    es.Sublist (new.foldl addEnvIfMissing es) := by
  induction new generalizing es with
  | nil => exact .refl _
  | cons e new ih => exact (sublist_addEnvIfMissing es e).trans (ih _)

theorem grown_setOrAddEnv (c : Container) (name value : String) :
    c.Grown (setOrAddEnv c name value) :=
  ⟨rfl, names_sublist_setEnv name value c.env, .refl _⟩

theorem grown_injectHTTPProxyEnv (port : Int) (c : Container) :
    c.Grown (injectHTTPProxyEnv port c) :=
  ⟨rfl, (sublist_foldl_addEnvIfMissing _ c.env).map _, .refl _⟩

/-! ### Volumes and mounts -/

/-- What a volume holds. -/
inductive VolumeSource where
  | emptyDir
  | csi (driver : String) (readOnly : Bool)
  | configMap (name : String) (optional : Option Bool)
  /-- A Secret, all of it or only some of its items. -/
  | secret (secretName : String) (defaultMode : Option Int) (items : List (String × String))
      (optional : Option Bool)
  /-- A source that the webhook never writes. -/
  | other (text : String)
  deriving DecidableEq

/-- A volume of a pod. -/
structure Volume where
  name : String
  source : VolumeSource
  deriving DecidableEq

/-- The guard of every volume that is injected. -/
def volumeExists (volumes : List Volume) (name : String) : Bool :=
  volumes.any fun v => v.name = name

/-- Append a volume unless one of its name is there. -/
def addVolumeIfMissing (volumes : List Volume) (v : Volume) : List Volume :=
  if volumeExists volumes v.name then volumes else volumes ++ [v]

/-- Mount a volume where it is not mounted, whatever the path. -/
def addVolumeMountIfMissing (vm : VolumeMount) (c : Container) : Container :=
  if c.volumeMounts.any fun m => m.name = vm.name then c
  else { c with volumeMounts := c.volumeMounts ++ [vm] }

/-- Mount one file of a volume where nothing of the volume is mounted at its path. -/
def appendSubPathMount (vol subPath mountPath : String) (c : Container) : Container :=
  if c.volumeMounts.any fun m => m.name = vol ∧ m.mountPath = mountPath then c
  else { c with volumeMounts :=
      c.volumeMounts ++ [{ name := vol, mountPath, subPath, readOnly := true }] }

def containerVolumeMountExists (mounts : List VolumeMount) (volumeName : String) : Bool :=
  mounts.any fun m => m.name = volumeName

def containerHasKeycloakCredentialsMount (c : Container) (volumeName mountPath : String) : Bool :=
  c.volumeMounts.any fun m => m.name = volumeName ∧ m.mountPath = mountPath

theorem volumeExists_addVolumeIfMissing (vs : List Volume) (u : Volume) (name : String) :
    volumeExists (addVolumeIfMissing vs u) name = (volumeExists vs name || u.name = name) := by
  rw [addVolumeIfMissing]
  split
  · rename_i h
    by_cases hu : u.name = name
    · rw [← hu, h, Bool.true_or]
    · simp [hu]
  · simp [volumeExists]

theorem grown_addVolumeMountIfMissing (vm : VolumeMount) (c : Container) :
    c.Grown (addVolumeMountIfMissing vm c) := by
  rw [addVolumeMountIfMissing]
  split
  · exact .refl c
  · exact ⟨rfl, .refl _, sublist_append_left _ _⟩

theorem grown_appendSubPathMount (vol subPath mountPath : String) (c : Container) :
    c.Grown (appendSubPathMount vol subPath mountPath c) := by
  rw [appendSubPathMount]
  split
  · exact .refl c
  · exact ⟨rfl, .refl _, sublist_append_left _ _⟩

/-! ### Pods -/

/-- The specification of a pod. -/
structure PodSpec where
  containers : List Container := []
  initContainers : List Container := []
  volumes : List Volume := []
  serviceAccountName : String := ""
  /-- The `fsGroup` of the security context. -/
  fsGroup : Option Int := none
  deriving DecidableEq

/-- Volumes one after the other, each where there is none of its name. -/
def addVolumes (new : List Volume) (pod : PodSpec) : PodSpec :=
  { pod with volumes := new.foldl addVolumeIfMissing pod.volumes }

/-- The group that owns the shared volumes. -/
def sharedVolumesFSGroup : Int := 0

/-- `ensureFSGroup`: a group that is set stays. -/
def ensureFSGroup (pod : PodSpec) : PodSpec :=
  { pod with fsGroup := pod.fsGroup <|> some sharedVolumesFSGroup }

/-- Adding volumes keeps those that are there. -/
theorem sublist_foldl_addVolumeIfMissing (new vs : List Volume) :
    vs.Sublist (new.foldl addVolumeIfMissing vs) := by
  induction new generalizing vs with
  | nil => exact .refl _
  | cons v new ih =>
    refine .trans ?_ (ih _)
    rw [addVolumeIfMissing]
    split
    · exact .refl _
    · exact sublist_append_left _ _

theorem forall₂_grown_trans {as bs cs : List Container}
    (h : List.Forall₂ Container.Grown as bs) (h' : List.Forall₂ Container.Grown bs cs) :
    List.Forall₂ Container.Grown as cs := by
  induction h generalizing cs with
  | nil => exact h'
  | cons hab _ ih =>
    cases h' with
    | cons hbc htail => exact .cons (hab.trans hbc) (ih htail)

/-- A pod is the one before with grown containers, and the same init containers. -/
structure PodSpec.Grown (pod pod' : PodSpec) : Prop where
  containers : List.Forall₂ Container.Grown pod.containers pod'.containers
  initContainers : pod'.initContainers = pod.initContainers

theorem PodSpec.Grown.refl (pod : PodSpec) : pod.Grown pod :=
  ⟨forall₂_same.mpr fun c _ => .refl c, rfl⟩

theorem PodSpec.Grown.trans {a b c : PodSpec} (h : a.Grown b) (h' : b.Grown c) : a.Grown c :=
  ⟨forall₂_grown_trans h.containers h'.containers, h'.initContainers.trans h.initContainers⟩

theorem grown_addVolumes (new : List Volume) (pod : PodSpec) : pod.Grown (addVolumes new pod) :=
  ⟨forall₂_same.mpr fun c _ => .refl c, rfl⟩

theorem grown_ensureFSGroup (pod : PodSpec) : pod.Grown (ensureFSGroup pod) :=
  ⟨forall₂_same.mpr fun c _ => .refl c, rfl⟩

/-! ### Credentials of the Keycloak client -/

/-- The annotation that names the Secret of the client. -/
def annotationKeycloakClientSecretName : String :=
  "rossoctl.io/keycloak-client-credentials-secret-name"

/-- White space, as `unicode.IsSpace` has it. -/
def isSpace (c : Char) : Bool :=
  c ∈ ['\t', '\n', '\x0b', '\x0c', '\r', ' ', '\u0085', '\u00a0', '\u1680', '\u2028', '\u2029',
    '\u202f', '\u205f', '\u3000'] ∨ ('\u2000' ≤ c ∧ c ≤ '\u200a')

/-- `strings.TrimSpace`. -/
def trimSpace (s : String) : String :=
  String.ofList ((s.toList.dropWhile isSpace).reverse.dropWhile isSpace).reverse

/-- The value of a key, or the empty string. -/
def valueOf (m : StringMap) (key : String) : String := (m.lookup key).getD ""

/-- The mounts of the credentials in one container, if it mounts `shared-data`. -/
def mountCredentials (volName : String) (c : Container) : Container :=
  if containerVolumeMountExists c.volumeMounts "shared-data" then
    appendSubPathMount volName "client-id.txt" "/shared/client-id.txt"
      (appendSubPathMount volName "client-secret.txt" "/shared/client-secret.txt" c)
  else c

/-- `ApplyKeycloakClientCredentialsSecretVolumes`. The volume has the name of the
Secret. -/
def applyKeycloakClientCredentialsSecretVolumes (annotations : StringMap) (pod : PodSpec) :
    PodSpec :=
  let secretName := trimSpace (valueOf annotations annotationKeycloakClientSecretName)
  if secretName = "" then pod
  else
    { pod with
      volumes := addVolumeIfMissing pod.volumes
        { name := secretName, source := .secret secretName none [] (some false) }
      containers := pod.containers.map (mountCredentials secretName) }

/-- Whether the volume of the credentials or one of its mounts is missing. -/
def needsKeycloakClientCredentialsVolumePatch (annotations : StringMap) (pod : PodSpec) : Bool :=
  let secretName := trimSpace (valueOf annotations annotationKeycloakClientSecretName)
  if secretName = "" then false
  else if !volumeExists pod.volumes secretName then true
  else pod.containers.any fun c =>
    containerVolumeMountExists c.volumeMounts "shared-data" &&
      (!containerHasKeycloakCredentialsMount c secretName "/shared/client-secret.txt" ||
        !containerHasKeycloakCredentialsMount c secretName "/shared/client-id.txt")

theorem grown_mountCredentials (volName : String) (c : Container) :
    c.Grown (mountCredentials volName c) := by
  rw [mountCredentials]
  split
  · exact (grown_appendSubPathMount _ _ _ c).trans (grown_appendSubPathMount _ _ _ _)
  · exact .refl c

/-- The mounts of the credentials only grow the pod. -/
theorem grown_applyKeycloakClientCredentialsSecretVolumes (annotations : StringMap)
    (pod : PodSpec) :
    pod.Grown (applyKeycloakClientCredentialsSecretVolumes annotations pod) := by
  rw [applyKeycloakClientCredentialsSecretVolumes]
  split
  · exact .refl pod
  · exact ⟨forall₂_grown_map (grown_mountCredentials _) _, rfl⟩

end Rossoctl.Webhook
