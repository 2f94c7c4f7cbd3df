import ReviewProtocol.Lib.Act
import ReviewProtocol.Auth
import ReviewProtocol.RequestCode
import ReviewProtocol.Wire

set_option autoImplicit false

/- The manager's calls to an agent. Each call opens a stream of its own, so the party is
one call: the stream it opens, the package source it may read, and what it did. -/
namespace ReviewProtocol.Server

open Framing (Bytes Act Endpoint)
open Framing.Act (Turn emit)

/-- What a call does, as seen from outside. -/
inductive ManagerEvent where
  /-- The authorizer's answer. -/
  | authorized (service : ServiceId) (answer : Except AuthorizationError Unit)
  /-- A stream opened. -/
  | opened
  /-- A request frame written. -/
  | requested (code : UInt32) (payload : Bytes)
  /-- One read of the package source. -/
  | read (result : Except IoError Bytes)
  /-- A payload frame written. -/
  | chunk (bytes : Bytes)
  /-- A response frame read. -/
  | received (ty : WireTy) (result : Except String ty.denote)
  /-- The sending half finished. -/
  | finished
  /-- The sending half reset. -/
  | reset

/-- The `anyhow` errors of a call, by what they wrap. -/
inductive ApiError where
  | io (context : Option String) (error : IoError)
  | denied (error : AuthorizationError)
  | message (text : String)
deriving DecidableEq

/-- The authorizer's state, and what `open_bi` meets if it fails. -/
structure Opening (τ : Type) where
  policy : τ
  refused : Option IoError

/-- The package source is a list of what its reads yield: some bytes, of which a read takes
as many as it has room for; no bytes, at the end; or an error. -/
abbrev Source := List (Except IoError Bytes)

abbrev Manager (τ : Type) := Endpoint (Opening τ) (Except IoError Bytes) ManagerEvent IoError

abbrev ManagerAct (τ α : Type) :=
  Act (Opening τ) (Except IoError Bytes) ManagerEvent IoError ApiError α

variable {τ : Type}

def packageChunkLen : Nat := 65536

inductive NodePowerOutcome where
  | sent
  | response (resp : NodePowerResponse)
deriving DecidableEq

inductive TerminalPreflight where
  | alreadyApplied
  | insufficientDiskSpace (filesystem : String) (required available : UInt64)
  | bindAddrsOnUpdate
  | namespaceUnconfigured
  | enrollmentUnsupported
  | configTemplateOnUpdate
  | unknownConfigTemplate (id : String)
deriving DecidableEq, Repr

inductive InstallOutcome where
  | preflight (verdict : TerminalPreflight)
  | applied (resp : NodePackageResponse)
deriving DecidableEq

def openBi : ManagerAct τ Unit := do
  match ← Act.update fun state => (state.refused, state) with
  | none => emit .opened
  | some error => Act.fail (.io none error)

/-- `encode_request` and `frame::send_raw`. -/
def sendRaw (wire : Wire) (code : Client.RequestCode) (ty : WireTy) (payload : ty.denote) :
    ManagerAct τ Unit := do
  let body := wire.encode ty payload
  Act.orFail (.io none) (← Act.send (Wire.requestFrame code.discriminant body)
    (.requested code.discriminant body))

/-- `frame::recv::<Result<T, String>>`, with the error of either level made the call's. -/
def recvResult (wire : Wire) (ty : WireTy) (context : Option String) : ManagerAct τ ty.denote := do
  match ← Act.recv with
  | .error (error, _) => Act.fail (.io context error)
  | .ok body =>
      match wire.decode (.result ty) body with
      | .error error => Act.fail (.io context error)
      | .ok result => do
          emit (.received ty result)
          Act.orFail .message result

def sendRequest (wire : Wire) (code : Client.RequestCode) (ty : WireTy) (payload : ty.denote)
    (ret : WireTy) : ManagerAct τ ret.denote := do
  openBi
  sendRaw wire code ty payload
  recvResult wire ret none

def sendRequestNoResponse (wire : Wire) (code : Client.RequestCode) (ty : WireTy)
    (payload : ty.denote) : ManagerAct τ Unit := do
  openBi
  sendRaw wire code ty payload
  emit .finished

/-- Fails the call unless the authorizer allows the service. -/
def authorize (service : ServiceId) (ask : τ → Except AuthorizationError Unit × τ) :
    ManagerAct τ Unit := do
  let answer ← Act.update fun state =>
    ((ask state.policy).1, { state with policy := (ask state.policy).2 })
  emit (.authorized service answer)
  Act.orFail .denied answer

def sendRequestAuthorized (wire : Wire) (code : Client.RequestCode) (ty : WireTy)
    (payload : ty.denote) (ret : WireTy) (service : ServiceId) (peer : PeerContext)
    (authorizer : Authorizer τ) : ManagerAct τ ret.denote := do
  authorize service (authorizer.authorize peer service)
  sendRequest wire code ty payload ret

def sendRequestAuthorizedWithContext (wire : Wire) (code : Client.RequestCode) (ty : WireTy)
    (payload : ty.denote) (ret : WireTy) (service : ServiceId) (context : AuthorizationContext)
    (authorizer : AuthorizerV2 τ) : ManagerAct τ ret.denote := do
  authorize service (authorizer.authorizeWithContext context service)
  sendRequest wire code ty payload ret

def rejectInstall (req : NodePackageRequest) : ManagerAct τ Unit :=
  match req with
  | .install _ =>
      Act.fail (.message "an install request carries a payload; use `node_package_install`")
  | _ => pure ()

def installSize (req : NodePackageRequest) : ManagerAct τ UInt64 :=
  match req with
  | .install fields => pure fields.size
  | _ => Act.fail
      (.message "`node_package_install` accepts only an install request; use `node_package`")

/-- One read of the source into a buffer of `want` bytes. -/
def readSource (want : Nat) : ManagerAct τ (Except IoError Bytes) := do
  let result ← Act.take fun
    | .ok bytes => (.ok (bytes.take want),
        if bytes.length ≤ want then none else some (.ok (bytes.drop want)))
    | .error error => (.error error, none)
  emit (.read result)
  pure result

/-- One round of `send_package`, with `remaining` bytes to go. -/
def sendPackageRound (size remaining : Nat) :
    ManagerAct τ (Turn Nat (Except ApiError Unit)) :=
  if remaining = 0 then pure (.stop (.ok ()))
  else do
    match ← readSource (min remaining packageChunkLen) with
    | .error error => pure (.stop (.error (.io (some "reading the package payload") error)))
    | .ok [] => pure (.stop (.error (.message
        s!"the package source ended after {size - remaining} of {size} bytes")))
    | .ok bytes => do
        match ← Act.send bytes (.chunk bytes) with
        | .error error => pure (.stop (.error (.io none error)))
        | .ok () => pure (.next (remaining - bytes.length))

/-- What a read leaves of the bytes it found. -/
def putBack (more : Bytes) : Source :=
  if more = [] then [] else [.ok more]

/-- A read waits, fails, or takes what it has room for. -/
theorem run_readSource {want : Nat} (room : 0 < want) (w : Manager τ) :
    (w.input = [] ∧ (readSource want).run w = (.error .pending, w)) ∨
    (∃ error rest, w.input = .error error :: rest ∧ (readSource want).run w =
      (.ok (.error error), { w with input := rest, log := w.log ++ [.read (.error error)] })) ∨
    ∃ data more rest, w.input = .ok (data ++ more) :: rest ∧ data.length ≤ want ∧
      (data = [] → more = []) ∧ (readSource want).run w =
        (.ok (.ok data),
          { w with input := putBack more ++ rest, log := w.log ++ [.read (.ok data)] }) := by
  obtain ⟨state, input, recv, send, log⟩ := w
  cases input with
  | nil => exact .inl ⟨rfl, rfl⟩
  | cons piece rest =>
      cases piece with
      | error error => exact .inr (.inl ⟨error, rest, rfl, rfl⟩)
      | ok bytes =>
          refine .inr (.inr ⟨bytes.take want, bytes.drop want, rest, ?_, ?_, ?_, ?_⟩)
          · rw [List.take_append_drop]
          · exact List.length_take_le want bytes
          · intro none
            rcases List.take_eq_nil_iff.mp none with zero | empty
            · omega
            · rw [empty, List.drop_nil]
          · have left : (if bytes.length ≤ want then none else some (.ok (bytes.drop want)) :
                Option (Except IoError Bytes)).toList = putBack (bytes.drop want) := by
              unfold putBack
              by_cases short : bytes.length ≤ want
              · rw [if_pos short, if_pos (List.drop_eq_nil_of_le short)]
                rfl
              · rw [if_neg short, if_neg (fun none => short (List.drop_eq_nil_iff.mp none))]
                rfl
            rw [← left]
            rfl

/-- All that one round of `send_package` can do. -/
theorem sendPackageRound_cases (size remaining : Nat) (w : Manager τ) :
    (remaining = 0 ∧ (sendPackageRound size remaining).run w = (.ok (.stop (.ok ())), w)) ∨
    (0 < remaining ∧ w.input = [] ∧
      (sendPackageRound size remaining).run w = (.error .pending, w)) ∨
    (0 < remaining ∧ ∃ error result rest,
      ((∃ failure, w.input = .error failure :: rest) ∨ w.input = .ok [] :: rest) ∧
      (sendPackageRound size remaining).run w =
        (.ok (.stop (.error error)), { w with input := rest, log := w.log ++ [.read result] })) ∨
    (0 < remaining ∧ ∃ data more rest, w.input = .ok (data ++ more) :: rest ∧ data ≠ [] ∧
      data.length ≤ remaining ∧ data.length ≤ packageChunkLen ∧
      ((w.send.outcome w.send.attempts data = none ∧
        (sendPackageRound size remaining).run w =
          (.ok (.next (remaining - data.length)),
            { w with
              input := putBack more ++ rest
              send.attempts := w.send.attempts + 1
              log := w.log ++ [.read (.ok data), .chunk data] })) ∨
      ∃ error, w.send.outcome w.send.attempts data = some error ∧
        (sendPackageRound size remaining).run w =
          (.ok (.stop (.error (.io none error))),
            { w with
              input := putBack more ++ rest
              send.attempts := w.send.attempts + 1
              log := w.log ++ [.read (.ok data)] }))) := by
  by_cases done : remaining = 0
  · left
    refine ⟨done, ?_⟩
    unfold sendPackageRound
    rw [if_pos done]
    rfl
  · right
    have positive : 0 < remaining := by omega
    have room : 0 < min remaining packageChunkLen := by
      unfold packageChunkLen
      omega
    unfold sendPackageRound
    rw [if_neg done, Act.run_bind]
    rcases run_readSource room w with
      ⟨empty, read⟩ | ⟨error, rest, input, read⟩ | ⟨data, more, rest, input, fits, last, read⟩
    · rw [read]
      exact .inl ⟨positive, empty, rfl⟩
    · rw [read]
      exact .inr (.inl ⟨positive, _, .error error, rest, .inl ⟨error, input⟩, rfl⟩)
    · rw [read, Act.andThen_ok]
      cases data with
      | nil =>
          rw [last rfl] at input ⊢
          exact .inr (.inl ⟨positive, _, .ok [], rest, .inr input, rfl⟩)
      | cons first data =>
          refine .inr (.inr ⟨positive, first :: data, more, rest, input, List.cons_ne_nil _ _,
            by omega, by omega, ?_⟩)
          simp only [Act.run_bind]
          rcases Act.run_send_cases (ε := ApiError) (first :: data)
            (ManagerEvent.chunk (first :: data))
            { w with
              input := putBack more ++ rest
              log := w.log ++ [.read (.ok (first :: data))] } with
            ⟨out, sent⟩ | ⟨error, out, sent⟩
          · left
            refine ⟨out, ?_⟩
            rw [sent]
            simp only [Act.andThen_ok, Act.run_pure, List.append_assoc, List.cons_append,
              List.nil_append]
          · right
            refine ⟨error, out, ?_⟩
            rw [sent]
            rfl

theorem sendPackageRound_decreasing (size : Nat) :
    Act.Decreasing (fun remaining (_ : Manager τ) => remaining) (sendPackageRound size) := by
  intro remaining w again w' ran
  rcases sendPackageRound_cases size remaining w with
    ⟨-, none⟩ | ⟨-, -, waits⟩ | ⟨-, _, _, _, -, quits⟩ |
      ⟨positive, data, _, _, -, some, fits, -, sent⟩
  · rw [none] at ran
    cases ran
  · rw [waits] at ran
    cases ran
  · rw [quits] at ran
    cases ran
  · have length := List.length_pos_iff.mpr some
    rcases sent with ⟨-, sent⟩ | ⟨_, -, sent⟩
    · rw [sent] at ran
      cases ran
      show remaining - data.length < remaining
      omega
    · rw [sent] at ran
      cases ran

def sendPackage (size : Nat) : ManagerAct τ (Except ApiError Unit) :=
  Act.loop (fun remaining _ => remaining) (sendPackageRound size)
    (sendPackageRound_decreasing size) size

/-- What `install_exchange` does once the verdict is `Proceed`. -/
def streamPackage (wire : Wire) (size : UInt64) : ManagerAct τ InstallOutcome := do
  match ← sendPackage size.toNat with
  | .error error => do
      emit .reset
      Act.fail error
  | .ok () => do
      let resp ← recvResult wire .nodePackageResponse (some "receiving the install response")
      pure (.applied resp)

def installExchange (wire : Wire) (req : NodePackageRequest) (size : UInt64) :
    ManagerAct τ InstallOutcome := do
  openBi
  sendRaw wire .nodePackage .nodePackageRequest req
  match ← recvResult wire .installPreflight (some "receiving the install preflight verdict") with
  | .alreadyApplied => pure (.preflight .alreadyApplied)
  | .insufficientDiskSpace filesystem required available =>
      pure (.preflight (.insufficientDiskSpace filesystem required available))
  | .bindAddrsOnUpdate => pure (.preflight .bindAddrsOnUpdate)
  | .namespaceUnconfigured => pure (.preflight .namespaceUnconfigured)
  | .enrollmentUnsupported => pure (.preflight .enrollmentUnsupported)
  | .configTemplateOnUpdate => pure (.preflight .configTemplateOnUpdate)
  | .unknownConfigTemplate id => pure (.preflight (.unknownConfigTemplate id))
  | .proceed => streamPackage wire size

def sendAllowlist (wire : Wire) (allowlist : HostNetworkGroup) : ManagerAct τ Unit :=
  sendRequest wire .allowlist .hostNetworkGroup allowlist .unit

def sendBlocklist (wire : Wire) (blocklist : HostNetworkGroup) : ManagerAct τ Unit :=
  sendRequest wire .blocklist .hostNetworkGroup blocklist .unit

def sendConfigUpdateCmd (wire : Wire) : ManagerAct τ Unit :=
  sendRequest wire .updateConfig .unit () .unit

def sendDeleteCustomerDataCmd (wire : Wire) (request : CustomerDataDeletionRequest) :
    ManagerAct τ Unit :=
  sendRequest wire .deleteCustomerData .customerDataDeletionRequest request .unit

def sendTrainModel (wire : Wire) (request : TrainModelRequest) : ManagerAct τ Unit :=
  sendRequest wire .trainModel .trainModelRequest request .unit

def sendCloneModel (wire : Wire) (request : CloneModelRequest) : ManagerAct τ Unit :=
  sendRequest wire .cloneModel .cloneModelRequest request .unit

def sendCancelRun (wire : Wire) (runId : UInt32) : ManagerAct τ Unit :=
  sendRequest wire .cancelRun .u32 runId .unit

def sendRunDetectorOnce (wire : Wire) (detectorId : Int32) : ManagerAct τ Unit :=
  sendRequest wire .runDetectorOnce .i32 detectorId .unit

def sendFilteringRules (wire : Wire) (list : List TrafficFilterRule) : ManagerAct τ Unit :=
  sendRequest wire .reloadFilterRule (.vec .trafficFilterRule) list .unit

def sendInternalNetworkList (wire : Wire) (list : HostNetworkGroup) : ManagerAct τ Unit :=
  sendRequest wire .internalNetworkList .hostNetworkGroup list .unit

def sendPing (wire : Wire) : ManagerAct τ Unit :=
  sendRequest wire .echoRequest .unit () .unit

def sendSamplingPolicies (wire : Wire) (list : List SamplingPolicy) : ManagerAct τ Unit :=
  sendRequest wire .samplingPolicyList (.vec .samplingPolicy) list .unit

def sendTorExitNodeList (wire : Wire) (list : List String) : ManagerAct τ Unit :=
  sendRequest wire .torExitNodeList (.vec .str) list .unit

def sendTrustedDomainList (wire : Wire) (list : List String) : ManagerAct τ Unit :=
  sendRequest wire .trustedDomainList (.vec .str) list .unit

def sendTrustedUserAgentList (wire : Wire) (list : List String) : ManagerAct τ Unit :=
  sendRequest wire .trustedUserAgentList (.vec .str) list .unit

def nodeService (wire : Wire) (req : NodeServiceRequest) :
    ManagerAct τ NodeServiceResponse :=
  sendRequest wire .nodeService .nodeServiceRequest req .nodeServiceResponse

def nodeNetworkInterface (wire : Wire) (req : NodeNetworkInterfaceRequest) :
    ManagerAct τ NodeNetworkInterfaceResponse :=
  sendRequest wire .nodeNetworkInterface .nodeNetworkInterfaceRequest req
    .nodeNetworkInterfaceResponse

def nodeHostname (wire : Wire) (req : NodeHostnameRequest) :
    ManagerAct τ NodeHostnameResponse :=
  sendRequest wire .nodeHostname .nodeHostnameRequest req .nodeHostnameResponse

def nodeTimeSync (wire : Wire) (req : NodeTimeSyncRequest) :
    ManagerAct τ NodeTimeSyncResponse :=
  sendRequest wire .nodeTimeSync .nodeTimeSyncRequest req .nodeTimeSyncResponse

def nodeLogging (wire : Wire) (req : NodeLoggingRequest) :
    ManagerAct τ NodeLoggingResponse :=
  sendRequest wire .nodeLogging .nodeLoggingRequest req .nodeLoggingResponse

def nodeRemoteAccess (wire : Wire) (req : NodeRemoteAccessRequest) :
    ManagerAct τ NodeRemoteAccessResponse :=
  sendRequest wire .nodeRemoteAccess .nodeRemoteAccessRequest req .nodeRemoteAccessResponse

def nodePower (wire : Wire) (req : NodePowerRequest) : ManagerAct τ NodePowerOutcome := do
  match req with
  | .reboot | .shutdown => do
      sendRequestNoResponse wire .nodePower .nodePowerRequest req
      pure .sent
  | .gracefulReboot | .gracefulShutdown => do
      let resp ← sendRequest wire .nodePower .nodePowerRequest req .nodePowerResponse
      pure (.response resp)

def nodeObservation (wire : Wire) (req : NodeObservationRequest) :
    ManagerAct τ NodeObservationResponse :=
  sendRequest wire .nodeObservation .nodeObservationRequest req .nodeObservationResponse

def nodeVersion (wire : Wire) (req : NodeVersionRequest) :
    ManagerAct τ NodeVersionResponse :=
  sendRequest wire .nodeVersion .nodeVersionRequest req .nodeVersionResponse

def nodePackage (wire : Wire) (req : NodePackageRequest) : ManagerAct τ NodePackageResponse := do
  rejectInstall req
  sendRequest wire .nodePackage .nodePackageRequest req .nodePackageResponse

def nodePackageInstall (wire : Wire) (req : NodePackageRequest) :
    ManagerAct τ InstallOutcome := do
  let size ← installSize req
  installExchange wire req size

def nodeEnroll (wire : Wire) (req : NodeEnrollRequest) :
    ManagerAct τ NodeEnrollResponse :=
  sendRequest wire .nodeEnroll .nodeEnrollRequest req .nodeEnrollResponse

def nodeServiceAuthorized (wire : Wire) (req : NodeServiceRequest) (peer : PeerContext)
    (authorizer : Authorizer τ) : ManagerAct τ NodeServiceResponse := do
  let sid := req.serviceId
  sendRequestAuthorized wire .nodeService .nodeServiceRequest req .nodeServiceResponse sid peer
    authorizer

def nodeNetworkInterfaceAuthorized (wire : Wire) (req : NodeNetworkInterfaceRequest)
    (peer : PeerContext)
    (authorizer : Authorizer τ) : ManagerAct τ NodeNetworkInterfaceResponse := do
  let sid := req.serviceId
  sendRequestAuthorized wire .nodeNetworkInterface .nodeNetworkInterfaceRequest req
    .nodeNetworkInterfaceResponse sid peer
    authorizer

def nodeHostnameAuthorized (wire : Wire) (req : NodeHostnameRequest) (peer : PeerContext)
    (authorizer : Authorizer τ) : ManagerAct τ NodeHostnameResponse := do
  let sid := req.serviceId
  sendRequestAuthorized wire .nodeHostname .nodeHostnameRequest req .nodeHostnameResponse sid peer
    authorizer

def nodeTimeSyncAuthorized (wire : Wire) (req : NodeTimeSyncRequest) (peer : PeerContext)
    (authorizer : Authorizer τ) : ManagerAct τ NodeTimeSyncResponse := do
  let sid := req.serviceId
  sendRequestAuthorized wire .nodeTimeSync .nodeTimeSyncRequest req .nodeTimeSyncResponse sid peer
    authorizer

def nodeLoggingAuthorized (wire : Wire) (req : NodeLoggingRequest) (peer : PeerContext)
    (authorizer : Authorizer τ) : ManagerAct τ NodeLoggingResponse := do
  let sid := req.serviceId
  sendRequestAuthorized wire .nodeLogging .nodeLoggingRequest req .nodeLoggingResponse sid peer
    authorizer

def nodeRemoteAccessAuthorized (wire : Wire) (req : NodeRemoteAccessRequest) (peer : PeerContext)
    (authorizer : Authorizer τ) : ManagerAct τ NodeRemoteAccessResponse := do
  let sid := req.serviceId
  sendRequestAuthorized wire .nodeRemoteAccess .nodeRemoteAccessRequest req
    .nodeRemoteAccessResponse sid peer
    authorizer

def nodePowerAuthorized (wire : Wire) (req : NodePowerRequest) (peer : PeerContext)
    (authorizer : Authorizer τ) : ManagerAct τ NodePowerOutcome := do
  let sid := req.serviceId
  authorize sid (authorizer.authorize peer sid)
  match req with
  | .reboot | .shutdown => do
      sendRequestNoResponse wire .nodePower .nodePowerRequest req
      pure .sent
  | .gracefulReboot | .gracefulShutdown => do
      let resp ← sendRequest wire .nodePower .nodePowerRequest req .nodePowerResponse
      pure (.response resp)

def nodeObservationAuthorized (wire : Wire) (req : NodeObservationRequest) (peer : PeerContext)
    (authorizer : Authorizer τ) : ManagerAct τ NodeObservationResponse := do
  let sid := req.serviceId
  sendRequestAuthorized wire .nodeObservation .nodeObservationRequest req
    .nodeObservationResponse sid peer
    authorizer

def nodeVersionAuthorized (wire : Wire) (req : NodeVersionRequest) (peer : PeerContext)
    (authorizer : Authorizer τ) : ManagerAct τ NodeVersionResponse := do
  let sid := req.serviceId
  sendRequestAuthorized wire .nodeVersion .nodeVersionRequest req .nodeVersionResponse sid peer
    authorizer

def nodePackageAuthorized (wire : Wire) (req : NodePackageRequest) (peer : PeerContext)
    (authorizer : Authorizer τ) : ManagerAct τ NodePackageResponse := do
  rejectInstall req
  let sid := req.serviceId
  sendRequestAuthorized wire .nodePackage .nodePackageRequest req .nodePackageResponse sid peer
    authorizer

def nodePackageInstallAuthorized (wire : Wire) (req : NodePackageRequest) (peer : PeerContext)
    (authorizer : Authorizer τ) : ManagerAct τ InstallOutcome := do
  let size ← installSize req
  let sid := req.serviceId
  authorize sid (authorizer.authorize peer sid)
  installExchange wire req size

def nodeEnrollAuthorized (wire : Wire) (req : NodeEnrollRequest) (peer : PeerContext)
    (authorizer : Authorizer τ) : ManagerAct τ NodeEnrollResponse := do
  let sid := req.serviceId
  sendRequestAuthorized wire .nodeEnroll .nodeEnrollRequest req .nodeEnrollResponse sid peer
    authorizer

def nodeServiceWithContext (wire : Wire) (req : NodeServiceRequest)
    (context : AuthorizationContext) (authorizer : AuthorizerV2 τ) :
    ManagerAct τ NodeServiceResponse := do
  let sid := req.serviceId
  sendRequestAuthorizedWithContext wire .nodeService .nodeServiceRequest req
    .nodeServiceResponse sid context authorizer

def nodeNetworkInterfaceWithContext (wire : Wire) (req : NodeNetworkInterfaceRequest)
    (context : AuthorizationContext) (authorizer : AuthorizerV2 τ) :
    ManagerAct τ NodeNetworkInterfaceResponse := do
  let sid := req.serviceId
  sendRequestAuthorizedWithContext wire .nodeNetworkInterface .nodeNetworkInterfaceRequest req
    .nodeNetworkInterfaceResponse sid context authorizer

def nodeHostnameWithContext (wire : Wire) (req : NodeHostnameRequest)
    (context : AuthorizationContext) (authorizer : AuthorizerV2 τ) :
    ManagerAct τ NodeHostnameResponse := do
  let sid := req.serviceId
  sendRequestAuthorizedWithContext wire .nodeHostname .nodeHostnameRequest req
    .nodeHostnameResponse sid context authorizer

def nodeTimeSyncWithContext (wire : Wire) (req : NodeTimeSyncRequest)
    (context : AuthorizationContext) (authorizer : AuthorizerV2 τ) :
    ManagerAct τ NodeTimeSyncResponse := do
  let sid := req.serviceId
  sendRequestAuthorizedWithContext wire .nodeTimeSync .nodeTimeSyncRequest req
    .nodeTimeSyncResponse sid context authorizer

def nodeLoggingWithContext (wire : Wire) (req : NodeLoggingRequest)
    (context : AuthorizationContext) (authorizer : AuthorizerV2 τ) :
    ManagerAct τ NodeLoggingResponse := do
  let sid := req.serviceId
  sendRequestAuthorizedWithContext wire .nodeLogging .nodeLoggingRequest req
    .nodeLoggingResponse sid context authorizer

def nodeRemoteAccessWithContext (wire : Wire) (req : NodeRemoteAccessRequest)
    (context : AuthorizationContext) (authorizer : AuthorizerV2 τ) :
    ManagerAct τ NodeRemoteAccessResponse := do
  let sid := req.serviceId
  sendRequestAuthorizedWithContext wire .nodeRemoteAccess .nodeRemoteAccessRequest req
    .nodeRemoteAccessResponse sid context authorizer

def nodePowerWithContext (wire : Wire) (req : NodePowerRequest) (context : AuthorizationContext)
    (authorizer : AuthorizerV2 τ) : ManagerAct τ NodePowerOutcome := do
  let sid := req.serviceId
  authorize sid (authorizer.authorizeWithContext context sid)
  match req with
  | .reboot | .shutdown => do
      sendRequestNoResponse wire .nodePower .nodePowerRequest req
      pure .sent
  | .gracefulReboot | .gracefulShutdown => do
      let resp ← sendRequest wire .nodePower .nodePowerRequest req .nodePowerResponse
      pure (.response resp)

def nodeObservationWithContext (wire : Wire) (req : NodeObservationRequest)
    (context : AuthorizationContext) (authorizer : AuthorizerV2 τ) :
    ManagerAct τ NodeObservationResponse := do
  let sid := req.serviceId
  sendRequestAuthorizedWithContext wire .nodeObservation .nodeObservationRequest req
    .nodeObservationResponse sid context authorizer

def nodeVersionWithContext (wire : Wire) (req : NodeVersionRequest)
    (context : AuthorizationContext) (authorizer : AuthorizerV2 τ) :
    ManagerAct τ NodeVersionResponse := do
  let sid := req.serviceId
  sendRequestAuthorizedWithContext wire .nodeVersion .nodeVersionRequest req
    .nodeVersionResponse sid context authorizer

def nodePackageWithContext (wire : Wire) (req : NodePackageRequest)
    (context : AuthorizationContext) (authorizer : AuthorizerV2 τ) :
    ManagerAct τ NodePackageResponse := do
  rejectInstall req
  let sid := req.serviceId
  sendRequestAuthorizedWithContext wire .nodePackage .nodePackageRequest req
    .nodePackageResponse sid context authorizer

def nodePackageInstallWithContext (wire : Wire) (req : NodePackageRequest)
    (context : AuthorizationContext) (authorizer : AuthorizerV2 τ) :
    ManagerAct τ InstallOutcome := do
  let size ← installSize req
  let sid := req.serviceId
  authorize sid (authorizer.authorizeWithContext context sid)
  installExchange wire req size

def nodeEnrollWithContext (wire : Wire) (req : NodeEnrollRequest)
    (context : AuthorizationContext) (authorizer : AuthorizerV2 τ) :
    ManagerAct τ NodeEnrollResponse := do
  let sid := req.serviceId
  sendRequestAuthorizedWithContext wire .nodeEnroll .nodeEnrollRequest req
    .nodeEnrollResponse sid context authorizer

end ReviewProtocol.Server
