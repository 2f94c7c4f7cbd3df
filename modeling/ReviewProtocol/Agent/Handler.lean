import ReviewProtocol.Lib.Act
import ReviewProtocol.Wire

set_option autoImplicit false

/- The agent's handler traits. A method call is a value, so that the log of a
dispatch loop can name it; a handler answers calls and carries its own state. -/
namespace ReviewProtocol

open Framing (Bytes Act Endpoint)

/-- The methods of `NodeHandler` that answer at once. -/
inductive NodeCall where
  | nodeService (req : NodeServiceRequest)
  | nodeNetworkInterface (req : NodeNetworkInterfaceRequest)
  | nodeHostname (req : NodeHostnameRequest)
  | nodeTimeSync (req : NodeTimeSyncRequest)
  | nodeLogging (req : NodeLoggingRequest)
  | nodeRemoteAccess (req : NodeRemoteAccessRequest)
  | nodePower (req : NodePowerRequest)
  | nodeObservation (req : NodeObservationRequest)
  | nodeVersion (req : NodeVersionRequest)
  | nodePackage (req : NodePackageRequest)
  | nodePackageInstallPreflight (req : NodePackageRequest)
  | nodeEnroll (req : NodeEnrollRequest)
deriving DecidableEq

@[reducible] def NodeCall.ret : NodeCall → WireTy
  | nodeService _ => .nodeServiceResponse
  | nodeNetworkInterface _ => .nodeNetworkInterfaceResponse
  | nodeHostname _ => .nodeHostnameResponse
  | nodeTimeSync _ => .nodeTimeSyncResponse
  | nodeLogging _ => .nodeLoggingResponse
  | nodeRemoteAccess _ => .nodeRemoteAccessResponse
  | nodePower _ => .nodePowerResponse
  | nodeObservation _ => .nodeObservationResponse
  | nodeVersion _ => .nodeVersionResponse
  | nodePackage _ => .nodePackageResponse
  | nodePackageInstallPreflight _ => .installPreflight
  | nodeEnroll _ => .nodeEnrollResponse

/-- The flat methods of `Handler`. -/
inductive FlatCall where
  | dnsStart
  | dnsStop
  | reboot
  | reloadConfig
  | updateConfig
  | deleteCustomerData (request : CustomerDataDeletionRequest)
  | reloadTi (version : String)
  | resourceUsage
  | torExitNodeList (nodes : List String)
  | trustedDomainList (domains : List String)
  | samplingPolicyList (policies : List SamplingPolicy)
  | updateTrafficFilterRules (rules : List TrafficFilterRule)
  | deleteSamplingPolicy (policiesIds : List UInt32)
  | internalNetworkList (list : HostNetworkGroup)
  | allowlist (list : HostNetworkGroup)
  | blocklist (list : HostNetworkGroup)
  | trustedUserAgentList (list : List String)
  | processList
  | updateSemiSupervisedModels (list : Bytes)
  | shutdown
  | trainModel (request : TrainModelRequest)
  | cloneModel (request : CloneModelRequest)
  | cancelRun (runId : UInt32)
  | runDetectorOnce (detectorId : Int32)
deriving DecidableEq

@[reducible] def FlatCall.ret : FlatCall → WireTy
  | resourceUsage => .pair .str .resourceUsage
  | processList => .vec .process
  | _ => .unit

inductive AgentCall where
  | flat (call : FlatCall)
  | node (call : NodeCall)
  | nodePackageInstall (req : NodePackageRequest)
deriving DecidableEq

/-- What one `next_chunk` call tells its caller: `Ok(true)` with the chunk in the
buffer, `Ok(false)` with the buffer cleared, or an error with whatever the read
had already put aside. -/
inductive ChunkAnswer where
  | chunk (bytes : Bytes)
  | finished
  | failed (error : IoError) (seen : Bytes)
deriving DecidableEq

/-- A body of `node_package_install`, by its calls of `next_chunk`, each awaited
to its answer. It may look at every answer and stop after any of them. -/
inductive InstallProg (α : Type) where
  | ret (value : α)
  | nextChunk (resume : ChunkAnswer → InstallProg α)

structure NodeHandler (σ : Type) where
  call : (call : NodeCall) → σ → Except String call.ret.denote × σ
  nodePackageInstall : NodePackageRequest → σ →
    InstallProg (Except String NodePackageResponse × σ)

structure Handler (σ : Type) where
  flat : (call : FlatCall) → σ → Except String call.ret.denote × σ
  node : (call : NodeCall) → σ → Except String call.ret.denote × σ
  nodePackageInstall : NodePackageRequest → σ →
    InstallProg (Except String NodePackageResponse × σ)

/-- The blanket `impl<T: Handler> NodeHandler for T`, method by method. -/
def Handler.toNodeHandler {σ : Type} (handler : Handler σ) : NodeHandler σ where
  call
    | .nodeService req => handler.node (.nodeService req)
    | .nodeNetworkInterface req => handler.node (.nodeNetworkInterface req)
    | .nodeHostname req => handler.node (.nodeHostname req)
    | .nodeTimeSync req => handler.node (.nodeTimeSync req)
    | .nodeLogging req => handler.node (.nodeLogging req)
    | .nodeRemoteAccess req => handler.node (.nodeRemoteAccess req)
    | .nodePower req => handler.node (.nodePower req)
    | .nodeObservation req => handler.node (.nodeObservation req)
    | .nodeVersion req => handler.node (.nodeVersion req)
    | .nodePackage req => handler.node (.nodePackage req)
    | .nodePackageInstallPreflight req => handler.node (.nodePackageInstallPreflight req)
    | .nodeEnroll req => handler.node (.nodeEnroll req)
  nodePackageInstall req := handler.nodePackageInstall req

@[simp] theorem Handler.toNodeHandler_call {σ : Type} (handler : Handler σ) (call : NodeCall) :
    handler.toNodeHandler.call call = handler.node call := by
  cases call <;> rfl

/-- What a dispatch loop does, as seen from outside. -/
inductive AgentEvent where
  /-- A frame read as a request. -/
  | request (code : UInt32) (body : Bytes)
  /-- A frame read as payload while `remaining` bytes were expected. -/
  | chunk (remaining : Nat) (body : Bytes)
  /-- A payload read that failed. -/
  | chunkLost (error : IoError)
  /-- A handler method called. -/
  | called (call : AgentCall)
  /-- What `node_package_install` returned. -/
  | installed (result : Except String NodePackageResponse)
  /-- A response frame written. -/
  | replied (ty : WireTy) (result : Except String ty.denote)

abbrev Agent (σ : Type) := Endpoint σ Empty AgentEvent IoError

abbrev AgentAct (σ α : Type) := Act σ Empty AgentEvent IoError HandlerError α

end ReviewProtocol
