import Rossoctl.Webhook.Inject

/-!
# What the controllers read of an `AgentRuntime`

The webhook reads the target and the modes of an `AgentRuntime`; its controllers also know it by
name, and write its type and its mode of mutual TLS into the metadata of the workload
(`applyWorkloadConfig` in `internal/controller/agentruntime_controller.go`).
-/

namespace Rossoctl.Webhook

open Kube

/-- An `AgentRuntime` with what only its controllers read. -/
structure AgentRuntimeResource extends AgentRuntime where
  name : String
  type : String

def annotationConfigHash : String := "rossoctl.io/config-hash"

def annotationMTLSMode : String := "rossoctl.io/mtls-mode"

def labelManagedBy : String := "app.kubernetes.io/managed-by"

def labelManagedByValue : String := "rossoctl-operator"

/-- The metadata of a workload and of its pod template. -/
structure WorkloadTemplate where
  labels : StringMap := ∅
  podLabels : StringMap := ∅
  podAnnotations : StringMap := ∅

/-- The mode that the controller of the runtime goes by. -/
def AgentRuntimeResource.stampedMTLSMode (rt : AgentRuntimeResource) : String :=
  orElse rt.mtlsMode mtlsModePermissive

end Rossoctl.Webhook
