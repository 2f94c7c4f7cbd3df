import ReviewProtocol.Lib.Serve
import ReviewProtocol.Agent.PackageReader
import ReviewProtocol.RequestCode

set_option autoImplicit false

/- The agent's two dispatch loops. Each arm is written out for both, as the source
has them, so that their agreement is a fact and not a definition. -/
namespace ReviewProtocol

open Framing (Bytes Act Endpoint Protocol Halt)
open Framing.Act (Turn emit)

variable {σ : Type}

/-- Writes one response frame and leaves a failure to the caller. -/
def trySend (wire : Wire) (ty : WireTy) (result : Except String ty.denote) :
    AgentAct σ (Except IoError Unit) :=
  Act.send (wire.encode (.result ty) result) (.replied ty result)

/-- `send_response`, with its failure mapped to `SendError`. -/
def sendResponse (wire : Wire) (ty : WireTy) (result : Except String ty.denote) :
    AgentAct σ Unit := do
  Act.orFail .sendError (← trySend wire ty result)

/-- `oinq::message::send_err`, with its failure mapped to `SendError`. -/
def sendErr (wire : Wire) (message : String) : AgentAct σ Unit :=
  sendResponse wire .unit (.error message)

def unknownRequestMessage (code : UInt32) : String := s!"unknown request code: {code}"

def undecodableArgsMessage (code : UInt32) : String :=
  s!"request code {code}: the arguments could not be decoded; the manager and the agent may "
    ++ "be built against different review-protocol releases"

/-- The decode error as it is returned. -/
def classified (classify : Option ProtocolErrorKind) (error : IoError) : IoError :=
  match classify with
  | some kind => DispatchError.fromIo kind error
  | none => error

/-- Decodes the arguments of a request, answering on the wire when they cannot be. -/
def decodeArgs (wire : Wire) (ty : WireTy) (code : UInt32) (body : Bytes)
    (classify : Option ProtocolErrorKind) : AgentAct σ ty.denote := do
  match wire.decode ty body with
  | .ok args => pure args
  | .error error =>
      -- Whether this frame goes out does not matter to what is returned.
      let _ ← trySend wire .unit (.error (undecodableArgsMessage code))
      Act.fail (.recvError (classified classify error))

/-- Calls a handler method and logs that it was called. -/
def invoke {ty : WireTy} (call : AgentCall) (ask : σ → Except String ty.denote × σ) :
    AgentAct σ (Except String ty.denote) := do
  emit (.called call)
  Act.update ask

def NodeHandler.callNode (handler : NodeHandler σ) (call : NodeCall) :
    AgentAct σ (Except String call.ret.denote) :=
  invoke (.node call) (handler.call call)

def Handler.callNode (handler : Handler σ) (call : NodeCall) :
    AgentAct σ (Except String call.ret.denote) :=
  invoke (.node call) (handler.node call)

def Handler.callFlat (handler : Handler σ) (call : FlatCall) :
    AgentAct σ (Except String call.ret.denote) :=
  invoke (.flat call) (handler.flat call)

def nodePowerExpectsResponse : NodePowerRequest → Bool
  | .gracefulReboot => true
  | .gracefulShutdown => true
  | .reboot => false
  | .shutdown => false

/-- The handler's result and the drain's, merged. -/
def terminal (result : Except String NodePackageResponse) (drained : Except IoError Unit) :
    Except String NodePackageResponse :=
  match result, drained with
  | result, .ok () => result
  | .error error, .error _ => .error error
  | .ok _, .error error => .error s!"failed to receive the package payload: {error.text}"

/-- The handler has returned: reads what it left of the payload. -/
def concludePackage (result : Except String NodePackageResponse) (state : σ)
    (pkg : PackageReader) : AgentAct σ (Except String NodePackageResponse) := do
  Act.update fun _ => ((), state)
  emit (.installed result)
  let drained ← pkg.drain
  pure (terminal result drained)

/-- Lets the handler consume the payload, then reads the rest. -/
def receivePackage (handler : NodeHandler σ) (req : NodePackageRequest) (size : Nat) :
    AgentAct σ (Except String NodePackageResponse) := do
  emit (.called (.nodePackageInstall req))
  let state ← Act.update fun state => (state, state)
  let ((result, state), pkg) ← (handler.nodePackageInstall req state).run (.new size)
  concludePackage result state pkg

/-- The exchange of an `Install` from its verdict on. -/
def dispatchInstall (wire : Wire) (handler : NodeHandler σ) (req : NodePackageRequest)
    (size : Nat) : AgentAct σ Unit := do
  let verdict ← handler.callNode (.nodePackageInstallPreflight req)
  sendResponse wire .installPreflight verdict
  if verdict = .ok .proceed then
    let result ← receivePackage handler req size
    sendResponse wire .nodePackageResponse result

def dispatchNodePackage (wire : Wire) (handler : NodeHandler σ) (req : NodePackageRequest) :
    AgentAct σ Unit :=
  match req with
  | .install fields => dispatchInstall wire handler (.install fields) fields.size.toNat
  | req => do
      let result ← handler.callNode (.nodePackage req)
      sendResponse wire .nodePackageResponse result

/-- `handle_node`'s arms. -/
def NodeHandler.dispatch (wire : Wire) (handler : NodeHandler σ) (code : UInt32) (body : Bytes) :
    AgentAct σ Unit :=
  match Client.RequestCode.fromPrimitive code with
  | .nodeService => do
      let req ← decodeArgs wire .nodeServiceRequest code body none
      let result ← handler.callNode (.nodeService req)
      sendResponse wire .nodeServiceResponse result
  | .nodeNetworkInterface => do
      let req ← decodeArgs wire .nodeNetworkInterfaceRequest code body none
      let result ← handler.callNode (.nodeNetworkInterface req)
      sendResponse wire .nodeNetworkInterfaceResponse result
  | .nodeHostname => do
      let req ← decodeArgs wire .nodeHostnameRequest code body none
      let result ← handler.callNode (.nodeHostname req)
      sendResponse wire .nodeHostnameResponse result
  | .nodeTimeSync => do
      let req ← decodeArgs wire .nodeTimeSyncRequest code body none
      let result ← handler.callNode (.nodeTimeSync req)
      sendResponse wire .nodeTimeSyncResponse result
  | .nodeLogging => do
      let req ← decodeArgs wire .nodeLoggingRequest code body none
      let result ← handler.callNode (.nodeLogging req)
      sendResponse wire .nodeLoggingResponse result
  | .nodeRemoteAccess => do
      let req ← decodeArgs wire .nodeRemoteAccessRequest code body none
      let result ← handler.callNode (.nodeRemoteAccess req)
      sendResponse wire .nodeRemoteAccessResponse result
  | .nodePower => do
      let req ← decodeArgs wire .nodePowerRequest code body (some .invalidArgs)
      let expectsResponse := nodePowerExpectsResponse req
      let result ← handler.callNode (.nodePower req)
      if expectsResponse then
        sendResponse wire .nodePowerResponse result
  | .nodeObservation => do
      let req ← decodeArgs wire .nodeObservationRequest code body none
      let result ← handler.callNode (.nodeObservation req)
      sendResponse wire .nodeObservationResponse result
  | .nodeVersion => do
      let req ← decodeArgs wire .nodeVersionRequest code body none
      let result ← handler.callNode (.nodeVersion req)
      sendResponse wire .nodeVersionResponse result
  | .nodePackage => do
      let req ← decodeArgs wire .nodePackageRequest code body none
      dispatchNodePackage wire handler req
  | .nodeEnroll => do
      let req ← decodeArgs wire .nodeEnrollRequest code body none
      let result ← handler.callNode (.nodeEnroll req)
      sendResponse wire .nodeEnrollResponse result
  | _ => sendErr wire (unknownRequestMessage code)

def flatResourceUsage (wire : Wire) :
    NodeObservationResponse → Except String (String × ResourceUsage)
  | .resourceUsage hostname resourceUsage => .ok (hostname, resourceUsage)
  | other => .error s!"unexpected node_observation response: {wire.debug other}"

def flatProcessList (wire : Wire) : NodeObservationResponse → Except String (List Process)
  | .processList processes => .ok processes
  | other => .error s!"unexpected node_observation response: {wire.debug other}"

/-- `handle`'s arms. -/
def Handler.dispatch (wire : Wire) (handler : Handler σ) (code : UInt32) (body : Bytes) :
    AgentAct σ Unit :=
  match Client.RequestCode.fromPrimitive code with
  | .dnsStart => do
      let result ← handler.callFlat .dnsStart
      sendResponse wire .unit result
  | .dnsStop => do
      let result ← handler.callFlat .dnsStop
      sendResponse wire .unit result
  | .reboot => do
      let result ← handler.callNode (.nodePower .reboot)
      sendResponse wire .unit (result.map fun _ => ())
  | .reloadConfig => do
      let result ← handler.callFlat .reloadConfig
      sendResponse wire .unit result
  | .reloadTi => do
      let version ← decodeArgs wire .str code body (some .invalidArgs)
      let result ← handler.callFlat (.reloadTi version)
      sendResponse wire .unit result
  | .resourceUsage => do
      let result ← handler.callNode (.nodeObservation .resourceUsage)
      sendResponse wire (.pair .str .resourceUsage) (result >>= flatResourceUsage wire)
  | .torExitNodeList => do
      let nodes ← decodeArgs wire (.vec .str) code body none
      let result ← handler.callFlat (.torExitNodeList nodes)
      sendResponse wire .unit result
  | .samplingPolicyList => do
      let list ← decodeArgs wire (.vec .samplingPolicy) code body none
      let result ← handler.callFlat (.samplingPolicyList list)
      sendResponse wire .unit result
  | .deleteSamplingPolicy => do
      let policyIds ← decodeArgs wire (.vec .u32) code body none
      let result ← handler.callFlat (.deleteSamplingPolicy policyIds)
      sendResponse wire .unit result
  | .trustedDomainList => do
      let domains ← decodeArgs wire (.vec .str) code body none
      let result ← handler.callFlat (.trustedDomainList domains)
      sendResponse wire .unit result
  | .internalNetworkList => do
      let networkList ← decodeArgs wire .hostNetworkGroup code body none
      let result ← handler.callFlat (.internalNetworkList networkList)
      sendResponse wire .unit result
  | .allowlist => do
      let allowlist ← decodeArgs wire .hostNetworkGroup code body none
      let result ← handler.callFlat (.allowlist allowlist)
      sendResponse wire .unit result
  | .blocklist => do
      let blocklist ← decodeArgs wire .hostNetworkGroup code body none
      let result ← handler.callFlat (.blocklist blocklist)
      sendResponse wire .unit result
  | .echoRequest => sendResponse wire .unit (.ok ())
  | .trustedUserAgentList => do
      let userAgentList ← decodeArgs wire (.vec .str) code body none
      let result ← handler.callFlat (.trustedUserAgentList userAgentList)
      sendResponse wire .unit result
  | .reloadFilterRule => do
      let rules ← decodeArgs wire (.vec .trafficFilterRule) code body none
      let result ← handler.callFlat (.updateTrafficFilterRules rules)
      sendResponse wire .unit result
  | .updateConfig => do
      let result ← handler.callFlat .updateConfig
      sendResponse wire .unit result
  | .deleteCustomerData => do
      let request ← decodeArgs wire .customerDataDeletionRequest code body none
      let result ← handler.callFlat (.deleteCustomerData request)
      sendResponse wire .unit result
  | .processList => do
      let result ← handler.callNode (.nodeObservation .processList)
      sendResponse wire (.vec .process) (result >>= flatProcessList wire)
  | .semiSupervisedModels => do
      let result ← handler.callFlat (.updateSemiSupervisedModels body)
      sendResponse wire .unit result
  | .shutdown => do
      let result ← handler.callNode (.nodePower .shutdown)
      sendResponse wire .unit (result.map fun _ => ())
  | .nodeService => do
      let req ← decodeArgs wire .nodeServiceRequest code body none
      let result ← handler.callNode (.nodeService req)
      sendResponse wire .nodeServiceResponse result
  | .nodeNetworkInterface => do
      let req ← decodeArgs wire .nodeNetworkInterfaceRequest code body none
      let result ← handler.callNode (.nodeNetworkInterface req)
      sendResponse wire .nodeNetworkInterfaceResponse result
  | .nodeHostname => do
      let req ← decodeArgs wire .nodeHostnameRequest code body none
      let result ← handler.callNode (.nodeHostname req)
      sendResponse wire .nodeHostnameResponse result
  | .nodeTimeSync => do
      let req ← decodeArgs wire .nodeTimeSyncRequest code body none
      let result ← handler.callNode (.nodeTimeSync req)
      sendResponse wire .nodeTimeSyncResponse result
  | .nodeLogging => do
      let req ← decodeArgs wire .nodeLoggingRequest code body none
      let result ← handler.callNode (.nodeLogging req)
      sendResponse wire .nodeLoggingResponse result
  | .nodeRemoteAccess => do
      let req ← decodeArgs wire .nodeRemoteAccessRequest code body none
      let result ← handler.callNode (.nodeRemoteAccess req)
      sendResponse wire .nodeRemoteAccessResponse result
  | .nodePower => do
      let req ← decodeArgs wire .nodePowerRequest code body (some .invalidArgs)
      let expectsResponse := nodePowerExpectsResponse req
      let result ← handler.callNode (.nodePower req)
      if expectsResponse then
        sendResponse wire .nodePowerResponse result
  | .nodeObservation => do
      let req ← decodeArgs wire .nodeObservationRequest code body none
      let result ← handler.callNode (.nodeObservation req)
      sendResponse wire .nodeObservationResponse result
  | .nodeVersion => do
      let req ← decodeArgs wire .nodeVersionRequest code body none
      let result ← handler.callNode (.nodeVersion req)
      sendResponse wire .nodeVersionResponse result
  -- An install reads past the request frame, so this arm may take more than one.
  | .nodePackage => do
      let req ← decodeArgs wire .nodePackageRequest code body none
      dispatchNodePackage wire handler.toNodeHandler req
  | .nodeEnroll => do
      let req ← decodeArgs wire .nodeEnrollRequest code body none
      let result ← handler.callNode (.nodeEnroll req)
      sendResponse wire .nodeEnrollResponse result
  | .trainModel => do
      let request ← decodeArgs wire .trainModelRequest code body none
      let result ← handler.callFlat (.trainModel request)
      sendResponse wire .unit result
  | .cloneModel => do
      let request ← decodeArgs wire .cloneModelRequest code body none
      let result ← handler.callFlat (.cloneModel request)
      sendResponse wire .unit result
  | .cancelRun => do
      let runId ← decodeArgs wire .u32 code body none
      let result ← handler.callFlat (.cancelRun runId)
      sendResponse wire .unit result
  | .runDetectorOnce => do
      let detectorId ← decodeArgs wire .i32 code body none
      let result ← handler.callFlat (.runDetectorOnce detectorId)
      sendResponse wire .unit result
  | .unknown => sendErr wire (unknownRequestMessage code)

/-- What the agent's loops take a frame for. They end well when the stream does. -/
def agentProtocol (wire : Wire) :
    Protocol AgentEvent IoError HandlerError (UInt32 × Bytes) Unit where
  parse := wire.splitRequest
  event request := .request request.1 request.2
  ended error := if error.kind = .unexpectedEof then .ok () else .error (.recvError error)

/-- An arm, after which the loop goes round again. -/
def goOn (arms : UInt32 → Bytes → AgentAct σ Unit) (request : UInt32 × Bytes) :
    AgentAct σ (Turn Unit Unit) := do
  arms request.1 request.2
  pure (.next ())

/-- A dispatch loop over the given arms. -/
def serve (wire : Wire) (arms : UInt32 → Bytes → AgentAct σ Unit) : AgentAct σ Unit :=
  (agentProtocol wire).serve (goOn arms)

def handleNode (wire : Wire) (handler : NodeHandler σ) : AgentAct σ Unit :=
  serve wire (handler.dispatch wire)

def handle (wire : Wire) (handler : Handler σ) : AgentAct σ Unit :=
  serve wire (handler.dispatch wire)

/-- The agent once it has read a request frame, with what follows it unread. -/
def atRequest (w : Agent σ) (rest : Bytes) (code : UInt32) (body : Bytes) : Agent σ :=
  { w with recv.bytes := rest, log := w.log ++ [.request code body] }

theorem run_goOn (arms : UInt32 → Bytes → AgentAct σ Unit) (request : UInt32 × Bytes)
    (w : Agent σ) : (goOn arms request).run w =
      Act.andThen ((arms request.1 request.2).run w) fun _ => pure (.next ()) := rfl

theorem resume_goOn (wire : Wire) (arms : UInt32 → Bytes → AgentAct σ Unit)
    (request : UInt32 × Bytes) (w : Agent σ) :
    (agentProtocol wire).resume (goOn arms) ((goOn arms request).run w) =
      Act.andThen ((arms request.1 request.2).run w) fun _ => serve wire arms := by
  rw [run_goOn]
  rcases (arms request.1 request.2).run w with ⟨_ | _, w'⟩
  · rfl
  · rfl

/-- A dispatch loop by its first round. -/
theorem serve_cases (wire : Wire) (w : Agent σ) :
    (∃ frame rest code body, w.recv.bytes = Framing.frame frame ++ rest ∧
      frame.length < Framing.frameLimit ∧ wire.splitRequest frame = .ok (code, body) ∧
      ∀ arms, (serve wire arms).run w =
        Act.andThen ((arms code body).run (atRequest w rest code body)) fun _ => serve wire arms) ∨
    (∃ error rest, (agentProtocol wire).Ends w rest error ∧ ∀ arms, (serve wire arms).run w =
      Protocol.stopped w rest ((agentProtocol wire).ended error)) ∨
    (w.recv.Waiting ∧ ∀ arms, (serve wire arms).run w = (.error .pending, w)) := by
  rcases (agentProtocol wire).serve_cases w with
    ⟨frame, rest, request, bytes, fits, parsed, read⟩ | ⟨error, rest, ends, read⟩ | ⟨waiting, read⟩
  · refine .inl ⟨frame, rest, request.1, request.2, bytes, fits, parsed, fun arms => ?_⟩
    exact (read (goOn arms)).trans (resume_goOn wire arms request _)
  · exact .inr (.inl ⟨error, rest, ends, fun arms => read (goOn arms)⟩)
  · exact .inr (.inr ⟨waiting, fun arms => read (goOn arms)⟩)

/-- A dispatch loop in front of a request. -/
theorem serve_request {wire : Wire} (arms : UInt32 → Bytes → AgentAct σ Unit) {w : Agent σ}
    {code : UInt32} {body rest : Bytes}
    (bytes : w.recv.bytes = Framing.frame (Wire.requestFrame code body) ++ rest)
    (fits : (Wire.requestFrame code body).length < Framing.frameLimit) :
    (serve wire arms).run w =
      Act.andThen ((arms code body).run (atRequest w rest code body)) fun _ => serve wire arms := by
  unfold serve
  rw [Protocol.serve_request _ _ bytes fits (wire.splitRequest_requestFrame code body)]
  exact resume_goOn wire arms (code, body) _

/-- Loop rule of a dispatch loop: what holds between requests, and what follows from
it when the loop ends in an arm, at the end of the stream, or waiting. -/
theorem serve_rule {wire : Wire} {arms : UInt32 → Bytes → AgentAct σ Unit}
    (invariant : Agent σ → Prop) (result : Except (Halt HandlerError) Unit × Agent σ → Prop)
    (served : ∀ w frame rest code body w', invariant w →
      w.recv.bytes = Framing.frame frame ++ rest →
      wire.splitRequest frame = .ok (code, body) →
      (arms code body).run (atRequest w rest code body) = (.ok (), w') → invariant w')
    (halted : ∀ w frame rest code body halt w', invariant w →
      w.recv.bytes = Framing.frame frame ++ rest → wire.splitRequest frame = .ok (code, body) →
      (arms code body).run (atRequest w rest code body) = (.error halt, w') →
      result (.error halt, w'))
    (ended : ∀ w error rest, invariant w → (agentProtocol wire).Ends w rest error →
      result (Protocol.stopped w rest ((agentProtocol wire).ended error)))
    (waiting : ∀ w, invariant w → w.recv.Waiting → result (.error .pending, w))
    (w : Agent σ) (start : invariant w) : result ((serve wire arms).run w) := by
  refine (agentProtocol wire).serve_rule invariant result ?_ ?_ ?_ ended waiting w start
  · intro w frame rest request w' held bytes parsed ran
    rw [run_goOn] at ran
    rcases arm : (arms request.1 request.2).run ((agentProtocol wire).atRequest w rest request) with
      ⟨_ | _, w₁⟩
    · rw [arm] at ran
      cases ran
    · rw [arm] at ran
      cases ran
      exact served w frame rest request.1 request.2 w' held bytes parsed arm
  · intro w frame rest request value w' held bytes parsed ran
    rw [run_goOn] at ran
    rcases arm : (arms request.1 request.2).run ((agentProtocol wire).atRequest w rest request) with
      ⟨_ | _, w₁⟩
    · rw [arm] at ran
      cases ran
    · rw [arm] at ran
      cases ran
  · intro w frame rest request halt w' held bytes parsed ran
    rw [run_goOn] at ran
    rcases arm : (arms request.1 request.2).run ((agentProtocol wire).atRequest w rest request) with
      ⟨_ | _, w₁⟩
    · rw [arm] at ran
      cases ran
      exact halted w frame rest request.1 request.2 halt w' held bytes parsed arm
    · rw [arm] at ran
      cases ran

/-- The requests read, in order. -/
def requests (log : List AgentEvent) : List (UInt32 × Bytes) :=
  log.filterMap fun
    | .request code body => some (code, body)
    | _ => none

@[simp] theorem requests_append (first second : List AgentEvent) :
    requests (first ++ second) = requests first ++ requests second := List.filterMap_append

/-- Loops whose arms agree on the requests that are read agree altogether. -/
theorem serve_congr (wire : Wire) (arms arms' : UInt32 → Bytes → AgentAct σ Unit) (w : Agent σ)
    (agree : ∀ request ∈ requests ((serve wire arms).run w).2.log,
      arms request.1 request.2 = arms' request.1 request.2) :
    (serve wire arms).run w = (serve wire arms').run w := by
  refine (agentProtocol wire).serve_congr (goOn arms) (goOn arms') w fun request member => ?_
  have read : request ∈ requests ((serve wire arms).run w).2.log :=
    List.mem_filterMap.mpr ⟨_, member, rfl⟩
  simp only [goOn, agree request read]

end ReviewProtocol
