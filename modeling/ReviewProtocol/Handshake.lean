import ReviewProtocol.Lib.Duplex
import ReviewProtocol.Lib.SemverText
import ReviewProtocol.Releases
import ReviewProtocol.Wire

set_option autoImplicit false

/- The handshake. The agent opens the first stream and introduces itself in one frame; the
manager answers in one, with the highest version it speaks or with the range it accepts. -/
namespace ReviewProtocol

open Framing (Bytes Act Endpoint RecvStream SendStream Halt Party Duplex frame)
open Framing.Act (emit)

/-- What the crate takes from `semver`. An error is its text. -/
structure Semver where
  Version : Type
  VersionReq : Type
  parse : String → Except String Version
  parseReq : String → Except String VersionReq
  display : Version → String
  displayReq : VersionReq → String
  reqMatches : VersionReq → Version → Bool
  le : Version → Version → Bool

/-- The `semver` crate. The texts of its errors are not spelled out. -/
@[reducible] def semverCrate : Semver where
  Version := SemVer.Version
  VersionReq := SemVer.VersionReq
  parse text := ((SemVer.Version.parse text.toList).map .ok).getD (.error "not a version")
  parseReq text :=
    ((SemVer.VersionReq.parse text.toList).map .ok).getD (.error "not a version requirement")
  display version := String.ofList version.display
  displayReq versionReq := String.ofList versionReq.display
  reqMatches versionReq version := versionReq.matchesReq version
  le version highest := version.le highest

/-- What the handshake takes from other crates and from `std`. -/
structure Crates where
  semver : Semver
  wire : Wire
  formats : Formats
  /-- The `Debug` text of a string. -/
  debugStr : String → String

/-- `quinn::ConnectionError`, where it has a text of its own with that text. -/
inductive ConnectionError where
  | versionMismatch
  | transportError (text : String)
  | connectionClosed (text : String)
  | applicationClosed (text : String)
  | reset
  | timedOut
  | locallyClosed
  | cidsExhausted
deriving DecidableEq, Repr

inductive HandshakeError where
  | connectionClosed
  | connectionLost (error : ConnectionError)
  | readError (error : IoError)
  | writeError (error : IoError)
  | messageTooLarge
  | invalidMessage
  | invalidVersionArgument (text : String)
  | incompatibleProtocol (version accepted : String)
deriving DecidableEq, Repr

/-- `ProtocolErrorKind::from`. -/
def HandshakeError.kind : HandshakeError → ProtocolErrorKind
  | incompatibleProtocol _ _ => .versionMismatch
  | _ => .other

def handleHandshakeSendIoError (error : IoError) : HandshakeError :=
  if error.kind = .invalidData then .messageTooLarge else .writeError error

def handleHandshakeRecvIoError (error : IoError) : HandshakeError :=
  match error.kind with
  | .invalidData => .invalidMessage
  | .unexpectedEof => .connectionClosed
  | _ => .readError error

namespace Semver

variable (semver : Semver)

/-- Whether an agent that advertises this version is let in. -/
def admits (versionReq : semver.VersionReq) (highest : semver.Version) (advertised : String) :
    Bool :=
  match semver.parse advertised with
  | .ok version => semver.reqMatches versionReq version && semver.le version highest
  | .error _ => false

/-- The range that a refusal reports. -/
def combinedRange (versionReq : semver.VersionReq) (highest : semver.Version) : String :=
  semver.displayReq versionReq ++ ", <=" ++ semver.display highest

/-- The answer to an agent that advertises this version. -/
def answer (versionReq : semver.VersionReq) (highest : semver.Version) (advertised : String) :
    Except String String :=
  if semver.admits versionReq highest advertised then
    .ok (semver.display highest)
  else
    .error (semver.combinedRange versionReq highest)

end Semver

/-! ### The manager -/

inductive HandshakeEvent where
  /-- The agent's stream accepted. -/
  | accepted
  /-- The answer written. -/
  | answered (result : Except String String)
  /-- The sending half finished. -/
  | finished
deriving DecidableEq, Repr

/-- The state is what `accept_bi` meets if it fails. -/
abbrev HandshakeAct (α : Type) :=
  Act (Option ConnectionError) Empty HandshakeEvent IoError HandshakeError α

/-- A stream is there to be accepted once something of it has arrived. -/
def acceptBi : HandshakeAct Unit := do
  match ← Act.update fun lost => (lost, lost) with
  | some error => Act.fail (.connectionLost error)
  | none => do
      Act.arrival
      emit .accepted

/-- `send_ok` and `send_err`. -/
def sendAnswer (wire : Wire) (result : Except String String) : HandshakeAct Unit := do
  Act.orFail handleHandshakeSendIoError
    (← Act.send (wire.encode (.result .str) result) (.answered result))

/-- The manager's verdict on an introduction. -/
def judge (crates : Crates) (addr : SocketAddr) (versionReq : crates.semver.VersionReq)
    (highest : crates.semver.Version) (buf : Bytes) : HandshakeAct AgentInfo :=
  match decodeAgentInfo crates.formats buf with
  | .error _ => Act.fail .invalidMessage
  | .ok agentInfo =>
      if crates.semver.admits versionReq highest agentInfo.protocolVersion then do
        sendAnswer crates.wire (.ok (crates.semver.display highest))
        pure { agentInfo with addr := addr }
      else do
        sendAnswer crates.wire (.error (crates.semver.combinedRange versionReq highest))
        emit .finished
        Act.fail (.incompatibleProtocol agentInfo.protocolVersion
          (crates.semver.combinedRange versionReq highest))

/-- The part of the handshake after its version arguments were parsed. -/
def receiveAgent (crates : Crates) (addr : SocketAddr) (versionReq : crates.semver.VersionReq)
    (highest : crates.semver.Version) : HandshakeAct AgentInfo := do
  acceptBi
  match ← Act.recv with
  | .error (error, _) => Act.fail (handleHandshakeRecvIoError error)
  | .ok buf => judge crates addr versionReq highest buf

def handshake (crates : Crates) (addr : SocketAddr) (versionReq highestProtocolVersion : String) :
    HandshakeAct AgentInfo :=
  match crates.semver.parseReq versionReq with
  | .error text => Act.fail (.invalidVersionArgument
      ("version_req " ++ crates.debugStr versionReq ++ ": " ++ text))
  | .ok req =>
      match crates.semver.parse highestProtocolVersion with
      | .error text => Act.fail (.invalidVersionArgument
          ("highest_protocol_version " ++ crates.debugStr highestProtocolVersion ++ ": " ++ text))
      | .ok highest => receiveAgent crates addr req highest

/-! ### The agent -/

/-- What the builder says about the agent. -/
structure ConnectionBuilder where
  agentName : String
  agentVersion : String
  protocolVersion : String
  status : Status
  capabilities : StringSet
  activeTrustEpoch : Option UInt64
  manifestFormats : Option ManifestFormatRange
  provisioningFingerprint : Option ProvisioningFingerprint
  auditHealth : Option AuditHealth

/-- How the connection below the handshake comes about, step by step. -/
structure Dial where
  buildEndpoint : Except IoError Unit
  connecting : Except String Unit
  connection : Except ConnectionError Unit
  remoteAddress : SocketAddr
  openBi : Except IoError Unit

/-- Every step succeeds. -/
structure Dial.Connects (dial : Dial) : Prop where
  buildEndpoint : dial.buildEndpoint = .ok ()
  connecting : dial.connecting = .ok ()
  connection : dial.connection = .ok ()
  openBi : dial.openBi = .ok ()

/-- The `io::Error` that `connect` reports for a connection that was not made. -/
def ConnectionError.toIo : ConnectionError → IoError
  | applicationClosed text => .message .connectionAborted text
  | cidsExhausted => .message .other "connection IDs exhausted"
  | connectionClosed text => .message .connectionAborted text
  | locallyClosed => .message .notConnected "locally closed"
  | reset => .simple .connectionReset
  | timedOut => .simple .timedOut
  | transportError text => .message .invalidData text
  | versionMismatch => .message .connectionRefused "version mismatch"

/-- The unspecified address of the remote's family, which the manager replaces. -/
def placeholderAddr (remote : SocketAddr) : SocketAddr :=
  match remote.ip with
  | .v6 _ => ⟨.v6 0, 0⟩
  | .v4 _ => ⟨.v4 0, 0⟩

def ConnectionBuilder.agentInfo (builder : ConnectionBuilder) (addr : SocketAddr) : AgentInfo where
  agentName := builder.agentName
  agentVersion := builder.agentVersion
  protocolVersion := builder.protocolVersion
  status := builder.status
  addr := addr
  capabilities := builder.capabilities
  activeTrustEpoch := builder.activeTrustEpoch
  manifestFormats := builder.manifestFormats
  provisioningFingerprint := builder.provisioningFingerprint
  auditHealth := builder.auditHealth

inductive ConnectEvent where
  | opened
  /-- The introduction written. -/
  | introduced (info : AgentInfo)

abbrev ConnectAct (α : Type) := Act Dial Empty ConnectEvent IoError IoError α

def refusal (accepted : String) : IoError :=
  .message .connectionRefused ("server requires protocol version " ++ accepted)

/-- What the agent makes of the manager's frame. -/
def conclude (wire : Wire) : Except (IoError × Bytes) Bytes → ConnectAct Unit
  | .error (error, _) => Act.fail error
  | .ok body =>
      match wire.decode (.result .str) body with
      | .error error => Act.fail error
      | .ok (.ok _) => pure ()
      | .ok (.error accepted) => Act.fail (refusal accepted)

def ConnectionBuilder.connect (builder : ConnectionBuilder) (crates : Crates) :
    ConnectAct Unit := do
  let dial ← Act.update fun dial => (dial, dial)
  Act.orFail id dial.buildEndpoint
  Act.orFail (.message .invalidInput) dial.connecting
  Act.orFail ConnectionError.toIo dial.connection
  let agentInfo := builder.agentInfo (placeholderAddr dial.remoteAddress)
  Act.orFail id dial.openBi
  emit .opened
  Act.orFail id (← Act.send (agentInfo.encode crates.formats) (.introduced agentInfo))
  conclude crates.wire (← Act.recv)

/-! ### The two together -/

def agentHandshake (crates : Crates) (builder : ConnectionBuilder) :
    Party Dial Empty ConnectEvent IoError IoError Unit where
  act := builder.connect crates
  body
    | .introduced info => some (info.encode crates.formats)
    | .opened => none

def managerHandshake (crates : Crates) (addr : SocketAddr)
    (versionReq highestProtocolVersion : String) :
    Party (Option ConnectionError) Empty HandshakeEvent IoError HandshakeError AgentInfo where
  act := handshake crates addr versionReq highestProtocolVersion
  body
    | .answered result => some (crates.wire.encode (.result .str) result)
    | _ => none

/-- Nothing has been sent, and the connection is as these say. -/
def introducing (dial : Dial) (lost : Option ConnectionError)
    (agentSend managerSend : SendStream IoError) :
    Duplex Dial Empty ConnectEvent IoError (Option ConnectionError) HandshakeEvent IoError where
  near := ⟨dial, [], ⟨[], none⟩, agentSend, []⟩
  far := ⟨lost, [], ⟨[], none⟩, managerSend, []⟩

/-- What the manager's side comes to. -/
def managerVerdict (crates : Crates) (addr : SocketAddr) (versionReq : crates.semver.VersionReq)
    (highest : crates.semver.Version) (agentInfo : AgentInfo) :
    Except (Halt HandshakeError) AgentInfo :=
  if crates.semver.admits versionReq highest agentInfo.protocolVersion then
    .ok { agentInfo with addr := addr }
  else
    .error (.failed (.incompatibleProtocol agentInfo.protocolVersion
      (crates.semver.combinedRange versionReq highest)))

/-- What the agent's side comes to. -/
def agentVerdict (crates : Crates) (versionReq : crates.semver.VersionReq)
    (highest : crates.semver.Version) (builder : ConnectionBuilder) :
    Except (Halt IoError) Unit :=
  if crates.semver.admits versionReq highest builder.protocolVersion then
    .ok ()
  else
    .error (.failed (refusal (crates.semver.combinedRange versionReq highest)))

section manager

variable {crates : Crates} {versionReq : crates.semver.VersionReq}
  {highest : crates.semver.Version} {agentInfo : AgentInfo}
  {w : Endpoint (Option ConnectionError) Empty HandshakeEvent IoError}

/-- The manager's entries for its answer. -/
def answeredLog (semver : Semver) (versionReq : semver.VersionReq) (highest : semver.Version)
    (advertised : String) : List HandshakeEvent :=
  .answered (semver.answer versionReq highest advertised) ::
    if semver.admits versionReq highest advertised then [] else [.finished]

theorem run_sendAnswer {wire : Wire} {result : Except String String}
    (out : w.send.outcome w.send.attempts (wire.encode (.result .str) result) = none) :
    (sendAnswer wire result).run w =
      (.ok (), { w with send.attempts := w.send.attempts + 1
                        log := w.log ++ [.answered result] }) := by
  rw [sendAnswer, Act.run_bind]
  rcases Act.run_send_cases (ε := HandshakeError) (wire.encode (.result .str) result)
    (.answered result) w with ⟨-, sent⟩ | ⟨error, failed, -⟩
  · rw [sent]
    rfl
  · rw [out] at failed
    cases failed

theorem acceptBi_cases (here : w.state = none) :
    (w.recv.bytes = [] ∧ acceptBi.run w = (.error .pending, w)) ∨
      acceptBi.run w = (.ok (), { w with log := w.log ++ [.accepted] }) := by
  have opening : acceptBi.run w =
      Act.andThen ((Act.arrival : HandshakeAct Unit).run w) fun _ => emit .accepted := by
    rw [acceptBi, Act.run_bind]
    show Act.andThen (.ok w.state, w) _ = _
    rw [here]
    rfl
  rw [opening]
  rcases Act.run_arrival_cases (ε := HandshakeError) w with ⟨empty, -, nothing⟩ | something
  · rw [nothing]
    exact .inl ⟨empty, rfl⟩
  · rw [something]
    exact .inr rfl

/-- An introduction is judged by the version it advertises, and answered. -/
theorem run_judge (addr : SocketAddr)
    (out : w.send.outcome w.send.attempts (crates.wire.encode (.result .str)
      (crates.semver.answer versionReq highest agentInfo.protocolVersion)) = none) :
    (judge crates addr versionReq highest (agentInfo.encode crates.formats)).run w =
      (managerVerdict crates addr versionReq highest agentInfo,
        { w with send.attempts := w.send.attempts + 1
                 log := w.log ++
                   answeredLog crates.semver versionReq highest agentInfo.protocolVersion }) := by
  have decoded := agentInfo.decode_append crates.formats []
  rw [List.append_nil] at decoded
  simp only [judge, decoded, managerVerdict, answeredLog]
  by_cases admitted : crates.semver.admits versionReq highest agentInfo.protocolVersion
  · have same : crates.semver.answer versionReq highest agentInfo.protocolVersion =
        .ok (crates.semver.display highest) := if_pos admitted
    rw [same] at out ⊢
    rw [if_pos admitted, if_pos admitted, if_pos admitted, Act.run_bind, run_sendAnswer out]
    rfl
  · have same : crates.semver.answer versionReq highest agentInfo.protocolVersion =
        .error (crates.semver.combinedRange versionReq highest) := if_neg admitted
    rw [same] at out ⊢
    rw [if_neg admitted, if_neg admitted, if_neg admitted, Act.run_bind, run_sendAnswer out]
    simp only [Act.andThen_ok, Act.run_bind, emit, Act.fail, List.append_assoc,
      List.singleton_append]

/-- Of an introduction, the manager has not all yet, or it answers. -/
theorem receiveAgent_cases (addr : SocketAddr)
    (sent : w.recv.bytes <+: frame (agentInfo.encode crates.formats))
    (fits : (agentInfo.encode crates.formats).length < Framing.frameLimit)
    (here : w.state = none)
    (out : w.send.outcome w.send.attempts (crates.wire.encode (.result .str)
      (crates.semver.answer versionReq highest agentInfo.protocolVersion)) = none)
    (orderly : w.recv.fin ≠ none → w.recv.bytes = frame (agentInfo.encode crates.formats)) :
    (∃ events, ((receiveAgent crates addr versionReq highest).run w).1 = .error .pending ∧
      ((receiveAgent crates addr versionReq highest).run w).2.log = w.log ++ events ∧
      (∀ event ∈ events, event = .accepted) ∧
      w.recv.bytes ≠ frame (agentInfo.encode crates.formats)) ∨
    (((receiveAgent crates addr versionReq highest).run w).1 =
        managerVerdict crates addr versionReq highest agentInfo ∧
      ((receiveAgent crates addr versionReq highest).run w).2.log = w.log ++
        .accepted :: answeredLog crates.semver versionReq highest agentInfo.protocolVersion) := by
  rw [receiveAgent, Act.run_bind]
  rcases acceptBi_cases here with ⟨empty, nothing⟩ | accepted
  · rw [nothing]
    refine .inl ⟨[], rfl, (List.append_nil _).symm, fun _ mem => (List.not_mem_nil mem).elim, ?_⟩
    intro whole
    have length := congrArg List.length whole
    rw [empty, Framing.length_frame, List.length_nil] at length
    omega
  · rw [accepted, Act.andThen_ok, Act.run_bind]
    rcases Act.run_recv_one (ε := HandshakeError)
      (w := { w with log := w.log ++ [HandshakeEvent.accepted] }) fits sent orderly with
      ⟨-, read⟩ | ⟨partly, read⟩
    · have judged := run_judge addr
        (w := { w with recv.bytes := [], log := w.log ++ [HandshakeEvent.accepted] }) out
      rw [read, Act.andThen_ok]
      dsimp only
      rw [judged]
      refine .inr ⟨rfl, ?_⟩
      show w.log ++ [.accepted] ++ _ = _
      rw [List.append_assoc, List.singleton_append]
    · rw [read, Act.andThen_error]
      exact .inl ⟨[.accepted], rfl, rfl, fun event mem => List.mem_singleton.mp mem, partly⟩

end manager

section agent

variable {crates : Crates} {builder : ConnectionBuilder}
  {w : Endpoint Dial Empty ConnectEvent IoError}

/-- What the agent says of itself on this connection. -/
def introduction (builder : ConnectionBuilder) (dial : Dial) : AgentInfo :=
  builder.agentInfo (placeholderAddr dial.remoteAddress)

/-- The agent after its introduction. -/
def introduced (builder : ConnectionBuilder) (w : Endpoint Dial Empty ConnectEvent IoError) :
    Endpoint Dial Empty ConnectEvent IoError :=
  { w with send.attempts := w.send.attempts + 1
           log := w.log ++ [.opened, .introduced (introduction builder w.state)] }

theorem run_connect (connects : w.state.Connects)
    (out : w.send.outcome w.send.attempts
      ((introduction builder w.state).encode crates.formats) = none) :
    (builder.connect crates).run w =
      Act.andThen (Act.recv.run (introduced builder w)) (conclude crates.wire) := by
  let opened := { w with log := w.log ++ [ConnectEvent.opened] }
  have sent : (Act.send ((introduction builder w.state).encode crates.formats)
      (.introduced (introduction builder w.state)) : ConnectAct _).run opened =
      (.ok (.ok ()), introduced builder w) := by
    rcases Act.run_send_cases (ε := IoError) ((introduction builder w.state).encode crates.formats)
      (.introduced (introduction builder w.state)) opened with ⟨-, sent⟩ | ⟨error, failed, -⟩
    · rw [sent, introduced]
      simp only [opened, List.append_assoc, List.singleton_append]
    · rw [out] at failed
      cases failed
  rw [ConnectionBuilder.connect, Act.run_bind]
  show Act.andThen (.ok w.state, w) _ = _
  simp only [Act.andThen_ok, connects.buildEndpoint, connects.connecting, connects.connection,
    connects.openBi, Act.run_bind]
  show Act.andThen ((Act.send ((introduction builder w.state).encode crates.formats)
    (.introduced (introduction builder w.state)) : ConnectAct _).run opened) _ = _
  rw [sent]
  rfl

/-- The manager's answer is the agent's verdict. -/
theorem run_conclude {versionReq : crates.semver.VersionReq} {highest : crates.semver.Version}
    (lawful : ∀ result, crates.wire.RoundTrips (.result .str) result) :
    ((conclude crates.wire (.ok (crates.wire.encode (.result .str)
      (crates.semver.answer versionReq highest builder.protocolVersion)))).run w).1 =
        agentVerdict crates versionReq highest builder := by
  have decoded := lawful (crates.semver.answer versionReq highest builder.protocolVersion)
  unfold Wire.RoundTrips at decoded
  unfold Semver.answer at decoded ⊢
  by_cases admitted : crates.semver.admits versionReq highest builder.protocolVersion
  · rw [if_pos admitted] at decoded ⊢
    simp only [conclude, decoded, agentVerdict, if_pos admitted, Act.run_pure]
  · rw [if_neg admitted] at decoded ⊢
    simp only [conclude, decoded, agentVerdict, if_neg admitted, Act.fail]

/-- Whatever comes back, the agent writes nothing more. -/
theorem conclude_state (wire : Wire) (read : Except (IoError × Bytes) Bytes) :
    ((conclude wire read).run w).2 = w := by
  cases read with
  | error failed => rfl
  | ok body =>
      simp only [conclude]
      rcases wire.decode (.result .str) body with error | accepted | display <;> rfl

theorem connect_log (connects : w.state.Connects)
    (out : w.send.outcome w.send.attempts
      ((introduction builder w.state).encode crates.formats) = none) :
    ((builder.connect crates).run w).2.log =
      w.log ++ [.opened, .introduced (introduction builder w.state)] := by
  rw [run_connect connects out]
  rcases Act.run_recv_cases (ε := IoError) (introduced builder w) with
    ⟨body, rest, -, -, read⟩ | ⟨error, -, read⟩ | ⟨-, read⟩
  · rw [read, Act.andThen_ok, conclude_state]
    rfl
  · rw [read, Act.andThen_ok, conclude_state]
    rfl
  · rw [read, Act.andThen_error]
    rfl

end agent

section agreement

variable {crates : Crates} {addr : SocketAddr} {versionReqText highestText : String}
  {versionReq : crates.semver.VersionReq} {highest : crates.semver.Version}
  {builder : ConnectionBuilder} {dial : Dial} {agentSend managerSend : SendStream IoError}

/-- Nothing below the handshake fails: the connection is made, and both frames go out. -/
structure Undisturbed (crates : Crates) (versionReq : crates.semver.VersionReq)
    (highest : crates.semver.Version) (builder : ConnectionBuilder) (dial : Dial)
    (agentSend managerSend : SendStream IoError) : Prop where
  connects : dial.Connects
  introduced : agentSend.outcome agentSend.attempts
    ((introduction builder dial).encode crates.formats) = none
  answered : managerSend.outcome managerSend.attempts (crates.wire.encode (.result .str)
    (crates.semver.answer versionReq highest builder.protocolVersion)) = none

variable {now : Duplex Dial Empty ConnectEvent IoError (Option ConnectionError)
    HandshakeEvent IoError}
  (undisturbed : Undisturbed crates versionReq highest builder dial agentSend managerSend)
  (parsedReq : crates.semver.parseReq versionReqText = .ok versionReq)
  (parsedHighest : crates.semver.parse highestText = .ok highest)
  (reachable : Duplex.Reachable (agentHandshake crates builder)
    (managerHandshake crates addr versionReqText highestText)
    (introducing dial none agentSend managerSend) now)
  (orderly : Duplex.Orderly (agentHandshake crates builder)
    (managerHandshake crates addr versionReqText highestText) now)

include undisturbed reachable in
theorem agent_output :
    (agentHandshake crates builder).output now.near =
      frame ((introduction builder dial).encode crates.formats) := by
  obtain ⟨near, -⟩ := reachable.frame
  rw [Party.output, near]
  show (agentHandshake crates builder).written ((builder.connect crates).run _).2.log = _
  rw [connect_log undisturbed.connects undisturbed.introduced]
  exact List.append_nil _

include undisturbed parsedReq parsedHighest reachable orderly in
/-- The manager waits, having answered nothing, or has come to its verdict. -/
theorem manager_cases :
    (((handshake crates addr versionReqText highestText).run now.far).1 = .error .pending ∧
      (managerHandshake crates addr versionReqText highestText).output now.far = [] ∧
      now.far.recv.bytes ≠ (agentHandshake crates builder).output now.near) ∨
    (((handshake crates addr versionReqText highestText).run now.far).1 =
        managerVerdict crates addr versionReq highest (introduction builder dial) ∧
      (managerHandshake crates addr versionReqText highestText).output now.far =
        frame (crates.wire.encode (.result .str)
          (crates.semver.answer versionReq highest builder.protocolVersion))) := by
  have delivered := reachable.delivered rfl rfl
  have output := agent_output undisturbed reachable
  obtain ⟨-, far⟩ := reachable.frame
  have same : handshake crates addr versionReqText highestText =
      receiveAgent crates addr versionReq highest := by
    simp only [handshake, parsedReq, parsedHighest]
  have fits := agentSend.fits _ _ undisturbed.introduced
  have arrived : now.far.recv.bytes <+: frame
      ((introduction builder dial).encode crates.formats) := by
    rw [← output]
    exact delivered.toFar
  have ended (finished : now.far.recv.fin ≠ none) :
      now.far.recv.bytes = frame ((introduction builder dial).encode crates.formats) := by
    rw [← output]
    exact (orderly.toFar finished).1
  have here : now.far.state = none := by rw [far]; rfl
  have fresh : now.far.log = [] := by rw [far]; rfl
  have out : now.far.send.outcome now.far.send.attempts (crates.wire.encode (.result .str)
      (crates.semver.answer versionReq highest (introduction builder dial).protocolVersion)) =
        none := by
    rw [far]
    exact undisturbed.answered
  have written : (managerHandshake crates addr versionReqText highestText).output now.far =
      (managerHandshake crates addr versionReqText highestText).written
        ((receiveAgent crates addr versionReq highest).run now.far).2.log := by
    rw [Party.output, ← same]
    rfl
  rw [same, written, output]
  rcases receiveAgent_cases addr arrived fits here out ended with
    ⟨events, pending, log, accepted, partly⟩ | ⟨verdict, log⟩
  · refine .inl ⟨pending, ?_, partly⟩
    rw [log, fresh, List.nil_append, Party.written, List.flatMap_eq_nil_iff]
    intro event mem
    rw [accepted event mem]
    rfl
  · refine .inr ⟨verdict, ?_⟩
    rw [log, fresh, List.nil_append, answeredLog]
    by_cases admitted :
        crates.semver.admits versionReq highest (introduction builder dial).protocolVersion
    · rw [if_pos admitted]
      exact List.append_nil _
    · rw [if_neg admitted]
      exact List.append_nil _

include undisturbed parsedReq parsedHighest reachable orderly in
/-- The agent waits, or has come to its verdict. -/
theorem agent_cases (lawful : ∀ result, crates.wire.RoundTrips (.result .str) result) :
    (((builder.connect crates).run now.near).1 = .error .pending ∧
      (((handshake crates addr versionReqText highestText).run now.far).1 = .error .pending ∨
        now.near.recv.bytes ≠ (managerHandshake crates addr versionReqText highestText).output
          now.far)) ∨
    ((builder.connect crates).run now.near).1 =
      agentVerdict crates versionReq highest builder := by
  have delivered := reachable.delivered rfl rfl
  obtain ⟨near, -⟩ := reachable.frame
  have state : now.near.state = dial := by rw [near]; rfl
  have connects : now.near.state.Connects := by rw [state]; exact undisturbed.connects
  have out : now.near.send.outcome now.near.send.attempts
      ((introduction builder now.near.state).encode crates.formats) = none := by
    rw [near]
    exact undisturbed.introduced
  have fits := managerSend.fits _ _ undisturbed.answered
  rw [run_connect connects out]
  have arrived := delivered.toNear
  rcases manager_cases undisturbed parsedReq parsedHighest reachable orderly with
    ⟨pending, nothing, -⟩ | ⟨verdict, output⟩
  · -- nothing was answered, so nothing can have ended
    have empty : now.near.recv.bytes = [] := by
      rw [nothing] at arrived
      exact List.prefix_nil.mp arrived
    have unfinished (finished : now.near.recv.fin ≠ none) : now.near.recv.bytes =
        frame (crates.wire.encode (.result .str)
          (crates.semver.answer versionReq highest builder.protocolVersion)) :=
      absurd pending (orderly.toNear finished).2
    rcases Act.run_recv_one (ε := IoError) (w := introduced builder now.near) fits
      (by show now.near.recv.bytes <+: _; rw [empty]; exact List.nil_prefix) unfinished with
      ⟨whole, -⟩ | ⟨-, read⟩
    · have length := congrArg List.length (empty.symm.trans whole)
      rw [Framing.length_frame, List.length_nil] at length
      omega
    · rw [read]
      exact .inl ⟨rfl, .inl pending⟩
  · rw [output] at arrived
    have ended (finished : now.near.recv.fin ≠ none) : now.near.recv.bytes =
        frame (crates.wire.encode (.result .str)
          (crates.semver.answer versionReq highest builder.protocolVersion)) := by
      rw [← output]
      exact (orderly.toNear finished).1
    rcases Act.run_recv_one (ε := IoError) (w := introduced builder now.near) fits
      arrived ended with
      ⟨-, read⟩ | ⟨partly, read⟩
    · rw [read, Act.andThen_ok]
      exact .inr (run_conclude lawful)
    · rw [read, output]
      exact .inl ⟨rfl, .inr partly⟩

include undisturbed reachable orderly in
/-- Whatever is still on its way can arrive, and then nothing is. -/
theorem handshake_settles :
    ∃ later, Duplex.Reachable (agentHandshake crates builder)
        (managerHandshake crates addr versionReqText highestText) now later ∧
      Duplex.Orderly (agentHandshake crates builder)
        (managerHandshake crates addr versionReqText highestText) later ∧
      Duplex.Quiescent (agentHandshake crates builder)
        (managerHandshake crates addr versionReqText highestText) later := by
  have delivered := reachable.delivered rfl rfl
  have toFar := delivered.reach_deliverFar orderly
  have orderlyFar := orderly.deliverFar delivered
  have reachableFar : Duplex.Reachable _ _ _ _ := reachable.trans toFar
  have deliveredFar := reachableFar.delivered rfl rfl
  have toNear := deliveredFar.reach_deliverNear orderlyFar
  refine ⟨_, toFar.trans toNear, orderlyFar.deliverNear deliveredFar, ?_, rfl⟩
  -- what the agent has written does not depend on what it has read
  have before := agent_output undisturbed reachable
  have after := agent_output undisturbed (reachableFar.trans toNear)
  rw [after, ← before]
  rfl

end agreement

/-- A version argument that does not parse ends the handshake before it does anything.
Otherwise both parties come to the same verdict, in whatever order they act: at any point
each one waits or has come to it, and each one has come to it when nothing is on its way,
which can always be brought about. -/
theorem handshake_agreement (crates : Crates)
    (lawful : ∀ result, crates.wire.RoundTrips (.result .str) result) :
    (∀ addr versionReqText highestText,
      ((∃ text, crates.semver.parseReq versionReqText = .error text) ∨
        ∃ text, crates.semver.parse highestText = .error text) →
      ∃ text, ∀ w, (handshake crates addr versionReqText highestText).run w =
        (.error (.failed (.invalidVersionArgument text)), w)) ∧
    ∀ addr versionReqText highestText versionReq highest builder dial agentSend managerSend now,
      crates.semver.parseReq versionReqText = .ok versionReq →
      crates.semver.parse highestText = .ok highest →
      Undisturbed crates versionReq highest builder dial agentSend managerSend →
      Duplex.Reachable (agentHandshake crates builder)
        (managerHandshake crates addr versionReqText highestText)
        (introducing dial none agentSend managerSend) now →
      Duplex.Orderly (agentHandshake crates builder)
        (managerHandshake crates addr versionReqText highestText) now →
      (∃ later, Duplex.Reachable (agentHandshake crates builder)
          (managerHandshake crates addr versionReqText highestText) now later ∧
        Duplex.Orderly (agentHandshake crates builder)
          (managerHandshake crates addr versionReqText highestText) later ∧
        Duplex.Quiescent (agentHandshake crates builder)
          (managerHandshake crates addr versionReqText highestText) later) ∧
      (((handshake crates addr versionReqText highestText).run now.far).1 = .error .pending ∨
        ((handshake crates addr versionReqText highestText).run now.far).1 =
          managerVerdict crates addr versionReq highest (introduction builder dial)) ∧
      (((builder.connect crates).run now.near).1 = .error .pending ∨
        ((builder.connect crates).run now.near).1 =
          agentVerdict crates versionReq highest builder) ∧
      (Duplex.Quiescent (agentHandshake crates builder)
          (managerHandshake crates addr versionReqText highestText) now →
        ((handshake crates addr versionReqText highestText).run now.far).1 =
            managerVerdict crates addr versionReq highest (introduction builder dial) ∧
          ((builder.connect crates).run now.near).1 =
            agentVerdict crates versionReq highest builder) := by
  constructor
  · intro addr versionReqText highestText invalid
    cases parsedReq : crates.semver.parseReq versionReqText with
    | error text =>
        refine ⟨"version_req " ++ crates.debugStr versionReqText ++ ": " ++ text, fun w => ?_⟩
        simp only [handshake, parsedReq]
        rfl
    | ok versionReq =>
        rcases invalid with ⟨text, other⟩ | ⟨text, parsedHighest⟩
        · rw [parsedReq] at other
          cases other
        · refine ⟨"highest_protocol_version " ++ crates.debugStr highestText ++ ": " ++ text,
            fun w => ?_⟩
          simp only [handshake, parsedReq, parsedHighest]
          rfl
  · intro addr versionReqText highestText versionReq highest builder dial agentSend managerSend
      now parsedReq parsedHighest undisturbed reachable orderly
    have manager := manager_cases undisturbed parsedReq parsedHighest reachable orderly
    have agent := agent_cases undisturbed parsedReq parsedHighest reachable orderly lawful
    refine ⟨handshake_settles undisturbed reachable orderly,
      manager.imp And.left And.left, agent.imp And.left id, ?_⟩
    intro quiescent
    have verdict : ((handshake crates addr versionReqText highestText).run now.far).1 =
        managerVerdict crates addr versionReq highest (introduction builder dial) := by
      rcases manager with ⟨-, -, partly⟩ | ⟨verdict, -⟩
      · exact absurd quiescent.toFar partly
      · exact verdict
    refine ⟨verdict, ?_⟩
    rcases agent with ⟨-, pending | partly⟩ | verdict'
    · have decided : managerVerdict crates addr versionReq highest (introduction builder dial) ≠
          .error .pending := by
        unfold managerVerdict
        split <;> exact nofun
      rw [verdict] at pending
      exact absurd pending decided
    · exact absurd quiescent.toNear partly
    · exact verdict'

/-- An agent that says nothing of itself but its version. -/
def sampleBuilder : ConnectionBuilder where
  agentName := ""
  agentVersion := ""
  protocolVersion := "0.49.0"
  status := .ready
  capabilities := .empty
  activeTrustEpoch := none
  manifestFormats := none
  provisioningFingerprint := none
  auditHealth := none

def sampleDial : Dial := ⟨.ok (), .ok (), .ok (), ⟨.v4 0, 0⟩, .ok ()⟩

def sampleCrates : Crates :=
  ⟨semverCrate, Encoding.bincode, Encoding.formats, fun text => "\"" ++ text ++ "\""⟩

theorem handshake_agreement_sample :
    ∃ later, Duplex.Reachable (agentHandshake sampleCrates sampleBuilder)
        (managerHandshake sampleCrates ⟨.v4 1, 2⟩ ">=0.48.0" "0.49.0")
        (introducing sampleDial none (.healthy (.simple .invalidInput))
          (.healthy (.simple .invalidInput))) later ∧
      ((handshake sampleCrates ⟨.v4 1, 2⟩ ">=0.48.0" "0.49.0").run later.far).1 =
        .ok { introduction sampleBuilder sampleDial with addr := ⟨.v4 1, 2⟩ } ∧
      ((sampleBuilder.connect sampleCrates).run later.near).1 = .ok () := by
  have lawful : ∀ result, sampleCrates.wire.RoundTrips (.result .str) result :=
    fun result => Encoding.bincode_roundTrips rfl result
  have parsedReq : semverCrate.parseReq ">=0.48.0" =
      .ok ⟨[⟨.greaterEq, 0, some 48, some 0, .empty, nofun, nofun, nofun⟩]⟩ := by
    decide +kernel
  have parsedHighest : semverCrate.parse "0.49.0" = .ok ⟨0, 49, 0, .empty, .empty⟩ := by
    decide +kernel
  have undisturbed : Undisturbed sampleCrates
      ⟨[⟨.greaterEq, 0, some 48, some 0, .empty, nofun, nofun, nofun⟩]⟩
      ⟨0, 49, 0, .empty, .empty⟩ sampleBuilder sampleDial (.healthy (.simple .invalidInput))
      (.healthy (.simple .invalidInput)) :=
    ⟨⟨rfl, rfl, rfl, rfl⟩, by decide +kernel, by decide +kernel⟩
  obtain ⟨-, agreement⟩ := handshake_agreement sampleCrates lawful
  obtain ⟨⟨later, reachable, orderly, quiescent⟩, -⟩ := agreement ⟨.v4 1, 2⟩ _ _ _ _ _ _ _ _ _
    parsedReq parsedHighest undisturbed .refl ⟨fun ended => absurd rfl ended,
      fun ended => absurd rfl ended⟩
  obtain ⟨-, -, -, settled⟩ := agreement ⟨.v4 1, 2⟩ _ _ _ _ _ _ _ _ _ parsedReq parsedHighest
    undisturbed reachable orderly
  obtain ⟨manager, agent⟩ := settled quiescent
  refine ⟨later, reachable, manager.trans ?_, agent.trans ?_⟩
  · decide +kernel
  · decide +kernel

end ReviewProtocol
