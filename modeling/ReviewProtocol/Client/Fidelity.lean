import ReviewProtocol.Client.Api
import ReviewProtocol.Lib.Call
import ReviewProtocol.Server.Gate

set_option autoImplicit false

/- Calls from agents to the manager: the handler method that is called is the one of the same
name, with the arguments that the caller gave, and its answer is what the caller gets. -/
namespace ReviewProtocol

open Framing (Bytes Act RecvStream SendStream Halt Party Duplex frame Faithful Asked)
open Client (ClientCall ClientAct ClientEvent Caller Asking otherError)
open Server (ServerCall ServerEvent State HandedBack)

variable {σ α : Type}

/-- The outcome of an action that ended. -/
def ended {ε : Type} : Except ε α → Except (Halt ε) α := Except.mapError .failed

def clientParty (call : ClientAct α) :
    Party (Option IoError) Empty ClientEvent IoError IoError α where
  act := call
  body
    | .requested code payload => some (Wire.requestFrame code payload)
    | _ => none

def serverParty (wire : Wire) (handler : Server.Handler σ) (peer : String) :
    Party (State σ Unit) Empty ServerEvent IoError IoError HandedBack where
  act := Server.handle wire handler peer
  body
    | .replied ty result => some (wire.encode (.result ty) result)
    | _ => none

/-- The handler methods called, in order. -/
def callsServed (log : List ServerEvent) : List ServerCall :=
  log.filterMap fun
    | .called call => some call
    | _ => none

/-- The call has read a response. -/
def HasRead (log : List ClientEvent) : Prop := ∃ ty result, .received ty result ∈ log

/-- A handler's answer to its caller: its value, or an error with its text. -/
def plain : Except String α → Except IoError α := Except.mapError otherError

/-- A data source that is not there is an error of its own. -/
def found : Except String (Option DataSource) → Except IoError DataSource
  | .ok (some source) => .ok source
  | .ok none => .error (.simple .notFound)
  | .error text => .error (otherError text)

/-- A handler method, and what its answer is to the caller. -/
structure Counterpart (α : Type) where
  call : ServerCall
  returned : Except String call.ret.denote → Except IoError α

namespace Client.ClientCall

/-- The handler method of the same name, and what its answer is to the caller. -/
def counterpart (peer : String) : (call : ClientCall) → Counterpart call.Outcome
  | reportCustomerDataDeletion report => ⟨.reportCustomerDataDeletion report, plain⟩
  | uploadRunModel runId model => ⟨.uploadRunModel peer runId model, plain⟩
  | reportRun runId state reason => ⟨.reportRun peer runId state reason, plain⟩
  | reportActiveRuns runIds => ⟨.reportActiveRuns peer runIds, plain⟩
  | reportDetectorStatus report => ⟨.reportDetectorStatus peer report, plain⟩
  | getConfig => ⟨.getConfig peer, plain⟩
  | getAllowlist => ⟨.getAllowlist peer, plain⟩
  | getBlocklist => ⟨.getBlocklist peer, plain⟩
  | getDataSource key => ⟨.getDataSource key, found⟩
  | getIndicator name => ⟨.getIndicator name, plain⟩
  | getInternalNetworkList => ⟨.getInternalNetworkList peer, plain⟩
  | getLabeldbPatterns labeldbs => ⟨.getLabeldbPatterns labeldbs, plain⟩
  | getTorExitNodeList => ⟨.getTorExitNodeList, plain⟩
  | getTrustedDomainList => ⟨.getTrustedDomainList, plain⟩
  | getTrustedUserAgentList => ⟨.getTrustedUserAgentList, plain⟩
  | getSamplingPolicyList => ⟨.getSamplingPolicyList peer, plain⟩
  | getPretrainedModel name => ⟨.getPretrainedModel name, plain⟩
  | renewCertificate => ⟨.renewCertificate peer, plain⟩
  | getModel name => ⟨.getModel name, plain⟩
  | getModelNames => ⟨.getModelNames, plain⟩
  | insertColumnStatistics statistics modelId batchTs =>
      ⟨.insertColumnStatistics statistics modelId batchTs, plain⟩
  | insertModel model => ⟨.insertModel model, plain⟩
  | insertTimeSeries timeSeries modelId batchTs =>
      ⟨.insertTimeSeries timeSeries modelId batchTs, plain⟩
  | removeModel name => ⟨.removeModel name, plain⟩
  | updateClusters input modelId => ⟨.updateClusters input modelId, plain⟩
  | updateModel model => ⟨.updateModel model, plain⟩
  | updateOutliers outliers modelId timestamp =>
      ⟨.updateOutliers outliers modelId timestamp, plain⟩
  | insertEventLabels modelId round eventLabels =>
      ⟨.insertEventLabels modelId round eventLabels, plain⟩
  | insertDataSource dataSource => ⟨.insertDataSource dataSource, plain⟩
  | getOutliers modelId timestamp => ⟨.getOutliers modelId timestamp, plain⟩
  | updateHostPorts hosts => ⟨.updateHostPorts peer hosts, plain⟩
  | updateHostUserAgents hosts => ⟨.updateHostUserAgents peer hosts, plain⟩

variable {wire : Wire} {peer : String} (call : ClientCall)

theorem orFail_plain (res : Except String α) :
    (Act.orFail otherError res : ClientAct α) = Act.orFail id (plain res) := by
  cases res <;> rfl

/-- Every method asks its question and returns what the handler's answer is to it. -/
theorem act_eq :
    call.act wire = (do
      let res ← request wire call.asking.code call.asking.ty call.asking.payload
        (call.counterpart peer).call.ret
      Act.orFail id ((call.counterpart peer).returned res)) := by
  cases call with
  | getDataSource key =>
      refine congrArg (request wire _ _ _ _ >>= ·) (funext fun res => ?_)
      rcases res with text | _ | source <;> rfl
  | _ => exact congrArg (request wire _ _ _ _ >>= ·) (funext fun res => orFail_plain res)

/-- The manager takes every request for the call of the method of the same name. -/
theorem planned (lawful : wire.RoundTrips call.asking.ty call.asking.payload) :
    Server.planOf wire peer call.asking.code.discriminant
      (wire.encode call.asking.ty call.asking.payload) = .unary (call.counterpart peer).call := by
  unfold Wire.RoundTrips at lawful
  cases call <;>
    simp only [asking, Server.planOf, Server.RequestCode.fromPrimitive_discriminant,
      counterpart] <;>
    first
    | rfl
    | (simp only [asking] at lawful
       simp only [Server.planArgs, lawful])

/-- What a call writes. -/
def requestFrame (wire : Wire) : Bytes :=
  Wire.requestFrame call.asking.code.discriminant (wire.encode call.asking.ty call.asking.payload)

/-- What a call makes of a response, if it understands it. -/
def concluding (wire : Wire) (other : Counterpart call.Outcome) (body : Bytes) :
    Option (Except (Halt IoError) call.Outcome) :=
  match wire.decode (.result other.call.ret) body with
  | .ok result => some (ended (other.returned result))
  | .error _ => none

end Client.ClientCall

theorem run_orFail {S I E X ε : Type} (result : Except ε α) (w : Framing.Endpoint S I E X) :
    (Act.orFail id result : Act S I E X ε α).run w = (ended result, w) := by
  cases result <;> rfl

theorem written_opened {call : ClientAct α} {events : List ClientEvent}
    (opened : ∀ event ∈ events, event = .opened) : (clientParty call).written events = [] := by
  refine List.flatMap_eq_nil_iff.mpr fun event mem => ?_
  rw [opened event mem]
  rfl

/-- All that a call can come to. -/
theorem Client.ClientCall.asked (wire : Wire) (peer : String) (call : ClientCall) {w : Caller}
    (fresh : w.log = []) :
    Asked (clientParty (call.act wire)) (Client.Dialed (call.requestFrame wire) w) HasRead
      (call.requestFrame wire) (call.concluding wire (call.counterpart peer)) w := by
  have requests := Client.request_requests wire call.asking.code call.asking.ty
    call.asking.payload (call.counterpart peer).call.ret w
  have ran : (clientParty (call.act wire)).act.run w = Act.andThen ((Client.request wire
      call.asking.code call.asking.ty call.asking.payload (call.counterpart peer).call.ret).run w)
      fun res => Act.orFail id ((call.counterpart peer).returned res) := by
    show (call.act wire).run w = _
    rw [@act_eq wire peer call]
    rfl
  rcases asked : (Client.request wire call.asking.code call.asking.ty call.asking.payload
    (call.counterpart peer).call.ret).run w with ⟨outcome, w'⟩
  rw [asked] at requests ran
  -- What was written, whatever was read after it.
  have written {events : List ClientEvent}
      (silent : (clientParty (call.act wire)).written events = []) :
      (clientParty (call.act wire)).written ((Client.requesting call.asking.code.discriminant
        (wire.encode call.asking.ty call.asking.payload) w).log ++ events) =
          frame (call.requestFrame wire) := by
    rw [Party.written_append, silent, List.append_nil, Client.requesting, fresh]
    exact List.append_nil _
  cases requests with
  | undialed error events send undialed opened =>
      refine .undialed undialed ?_ ?_ ?_
      · rw [Party.output, ran, fresh]
        exact written_opened opened
      · intro value success
        rw [ran] at success
        cases success
      · rintro ⟨ty, result, mem⟩
        rw [ran, fresh] at mem
        cases opened _ mem
  | unread halt recv small incomplete =>
      refine .unread ?_ small incomplete ?_ ?_
      · rw [Party.output, ran]
        have written := @written [] rfl
        rw [List.append_nil] at written
        exact written
      · intro value success
        rw [ran] at success
        cases success
      · rintro ⟨ty, result, mem⟩
        rw [ran] at mem
        simp [Client.requesting, fresh] at mem
  | undecoded error body rest small bytes fits undecoded =>
      refine .undecoded body rest ?_ small bytes fits ?_
      · rw [Party.output, ran]
        have written := @written [] rfl
        rw [List.append_nil] at written
        exact written
      · simp only [concluding, undecoded]
  | decoded result body rest small bytes fits decoded =>
      rw [Act.andThen_ok, run_orFail] at ran
      refine .decoded body rest ?_ small bytes fits ?_
      · rw [Party.output, ran]
        exact written rfl
      · rw [ran]
        simp only [concluding, decoded]

/-- What a call is to the handler, with the answer it gets. -/
def Client.ClientCall.answer (handler : Server.Handler σ) (peer : String) (call : ClientCall)
    (state : σ) : Except String (call.counterpart peer).call.ret.denote :=
  (handler.call (call.counterpart peer).call state).1

def Client.ClientCall.response (wire : Wire) (handler : Server.Handler σ) (peer : String)
    (call : ClientCall) (state : σ) : Bytes :=
  wire.encode (.result (call.counterpart peer).call.ret) (call.answer handler peer state)

/-- A request that is understood is one call, and its answer written unless that fails. -/
theorem Server.run_unary (wire : Wire) {handler : Server.Handler σ} {call : ServerCall}
    {code : UInt32} {body : Bytes} (w : Server.Peer σ Unit) :
    (w.send.outcome w.send.attempts
        (wire.encode (.result call.ret) (handler.call call w.state.handler).1) = none ∧
      (((Server.Plan.unary call).perform wire handler code body).run w).2.log =
        w.log ++ [.called call, .replied call.ret (handler.call call w.state.handler).1]) ∨
    (w.send.outcome w.send.attempts
        (wire.encode (.result call.ret) (handler.call call w.state.handler).1) ≠ none ∧
      (((Server.Plan.unary call).perform wire handler code body).run w).2.log =
        w.log ++ [.called call]) := by
  have unfolded : ((Server.Plan.unary call).perform wire handler code body).run w =
      Act.andThen ((Server.respond wire call.ret (handler.call call w.state.handler).1).run
        { w with
          state.handler := (handler.call call w.state.handler).2
          log := w.log ++ [.called call] }) fun _ => pure (.next ()) := rfl
  rw [unfolded]
  rcases Server.run_respond wire call.ret (handler.call call w.state.handler).1
    { w with
      state.handler := (handler.call call w.state.handler).2
      log := w.log ++ [.called call] } with ⟨taken, sent⟩ | ⟨failure, lost, sent⟩
  · left
    rw [sent]
    exact ⟨taken, List.append_assoc _ _ _⟩
  · right
    rw [sent]
    refine ⟨?_, rfl⟩
    intro taken
    cases lost.symm.trans taken

theorem callsServed_append (first second : List ServerEvent) :
    callsServed (first ++ second) = callsServed first ++ callsServed second :=
  List.filterMap_append

/-- Without a policy, a planned call is made. -/
theorem Server.run_arms (wire : Wire) (handler : Server.Handler σ) {peer : String} {code : UInt32}
    {body : Bytes} {call : ServerCall} (planned : Server.planOf wire peer code body = .unary call)
    (w : Server.Peer σ Unit) :
    ∃ asked,
      ((Server.Gate.legacy (.new peer) noopAuthorizer).arms wire handler (code, body)).run w =
        ((Server.Plan.unary call).perform wire handler code body).run
          { w with log := w.log ++ asked } ∧
      callsServed asked = [] ∧ (serverParty wire handler peer).written asked = [] := by
  unfold Server.Gate.arms
  dsimp only [Server.Gate.peerName]
  rw [Server.handleAuthorizedArms_eq, PeerContext.new, planned]
  cases fromServerRequestCode (.fromPrimitive code) with
  | none => exact ⟨[], by rw [List.append_nil], rfl, rfl⟩
  | some service => exact ⟨[.authorized service (.ok ())], rfl, rfl, rfl⟩

/-- All that the manager can come to on the stream of a call. -/
theorem Client.ClientCall.served (wire : Wire) (handler : Server.Handler σ) (peer : String)
    (call : ClientCall) (lawful : wire.RoundTrips call.asking.ty call.asking.payload)
    {w : Server.Peer σ Unit} (fresh : w.log = [])
    (arrives : Framing.Arrives (call.requestFrame wire) w.recv.bytes) :
    Framing.Served (serverParty wire handler peer) callsServed (call.requestFrame wire)
      (some (call.response wire handler peer w.state.handler)) [(call.counterpart peer).call]
      (w.send.outcome w.send.attempts (call.response wire handler peer w.state.handler) = none)
      w := by
  let gate : Server.Gate Unit := .legacy (.new peer) noopAuthorizer
  let body := wire.encode call.asking.ty call.asking.payload
  have loop : (serverParty wire handler peer).act =
      (Server.serverProtocol wire).serve (gate.arms wire handler) := gate.loop_eq_serve wire handler
  rcases (Server.serverProtocol wire).serve_one (gate.arms wire handler) arrives
    (wire.splitRequest_requestFrame call.asking.code.discriminant body) with
    ⟨other, log⟩ | ⟨whole, log⟩
  · refine .idle other ?_ ?_
    · rw [loop, log, fresh]
      rfl
    · rw [Party.output, loop, log, fresh]
      rfl
  · let v := (Server.serverProtocol wire).atRequest w [] (call.asking.code.discriminant, body)
    obtain ⟨asked, ran, uncalled, unwritten⟩ :=
      Server.run_arms wire handler (call.planned lawful : Server.planOf wire peer _ body = _) v
    have begun : v.log = [.request call.asking.code.discriminant body] := by
      show w.log ++ [_] = _
      rw [fresh]
      rfl
    rw [ran] at log
    rcases Server.run_unary wire { v with log := v.log ++ asked } with
      ⟨taken, made⟩ | ⟨lost, made⟩
    · rw [made, begun] at log
      refine .answered whole ?_ ?_ ?_
      · rw [loop, log, callsServed_append, callsServed_append, uncalled]
        rfl
      · rw [Party.output, loop, log, Party.written_append, Party.written_append, unwritten]
        exact List.append_nil _
      · intro response same
        rw [← Option.mem_some.mp same]
        exact w.send.fits _ _ taken
    · rw [made, begun] at log
      refine .lost whole ?_ ?_ lost
      · rw [loop, log, callsServed_append, callsServed_append, uncalled]
        rfl
      · rw [Party.output, loop, log, Party.written_append, Party.written_append, unwritten]
        rfl

/-- A call that has not begun, and a handler at the other end of the stream it will open.
Opening it and any of its writes may still fail. -/
structure ClientStream (σ : Type) where
  call : ClientCall
  handler : Server.Handler σ
  state : σ
  refused : Option IoError
  clientSend : SendStream IoError
  serverSend : SendStream IoError

namespace ClientStream

variable (wire : Wire) (peer : String) (stream : ClientStream σ)

def near : Party (Option IoError) Empty ClientEvent IoError IoError stream.call.Outcome :=
  clientParty (stream.call.act wire)

def far : Party (State σ Unit) Empty ServerEvent IoError IoError HandedBack :=
  serverParty wire stream.handler peer

def start :
    Duplex (Option IoError) Empty ClientEvent IoError (State σ Unit) ServerEvent IoError where
  near := ⟨stream.refused, [], ⟨[], none⟩, stream.clientSend, []⟩
  far := ⟨⟨stream.state, ()⟩, [], ⟨[], none⟩, stream.serverSend, []⟩

/-- The handler's own answer. -/
def answer : Except String (stream.call.counterpart peer).call.ret.denote :=
  stream.call.answer stream.handler peer stream.state

/-- The arguments and the answer come back from the wire as they were. -/
structure Lawful : Prop where
  arguments : wire.RoundTrips stream.call.asking.ty stream.call.asking.payload
  answer : wire.RoundTrips (.result (stream.call.counterpart peer).call.ret) (stream.answer peer)

/-- The stream opens and takes the request. -/
structure Starts : Prop where
  opened : stream.refused = none
  requested : stream.clientSend.outcome stream.clientSend.attempts
    (stream.call.requestFrame wire) = none

/-- The request and its answer were taken, and nothing is on its way. -/
structure Through (now : Duplex (Option IoError) Empty ClientEvent IoError (State σ Unit)
    ServerEvent IoError) : Prop where
  starts : stream.Starts wire
  answered : stream.serverSend.outcome stream.serverSend.attempts
    (stream.call.response wire stream.handler peer stream.state) = none
  quiescent : Duplex.Quiescent (stream.near wire) (stream.far wire peer) now

variable {wire peer stream}

/-- At any point a call can rely on being made of the handler method of the same name. -/
theorem faithful (lawful : stream.Lawful wire peer)
    {now : Duplex (Option IoError) Empty ClientEvent IoError (State σ Unit) ServerEvent IoError}
    (reachable : Duplex.Reachable (stream.near wire) (stream.far wire peer) stream.start now) :
    Faithful [(stream.call.counterpart peer).call]
      (callsServed ((Server.handle wire stream.handler peer).run now.far).2.log)
      ((stream.call.act wire).run now.near).1
      (ended ((stream.call.counterpart peer).returned (stream.answer peer))) True
      (HasRead ((stream.call.act wire).run now.near).2.log) (stream.Through wire peer now) := by
  have delivered := reachable.delivered rfl rfl
  obtain ⟨nearFrame, farFrame⟩ := reachable.frame
  have freshNear : now.near.log = [] := by rw [nearFrame]; rfl
  have freshFar : now.far.log = [] := by rw [farFrame]; rfl
  have state : now.far.state.handler = stream.state := by rw [farFrame]; rfl
  have decodes : stream.call.concluding wire (stream.call.counterpart peer)
      (stream.call.response wire stream.handler peer now.far.state.handler) =
        some (ended ((stream.call.counterpart peer).returned (stream.answer peer))) := by
    have same : wire.decode (.result (stream.call.counterpart peer).call.ret)
        (stream.call.response wire stream.handler peer stream.state) = .ok (stream.answer peer) :=
      lawful.answer
    rw [state]
    simp only [Client.ClientCall.concluding, same]
  have relies := Framing.faithful_of_asked delivered
    (stream.call.asked wire peer freshNear)
    (stream.call.served wire stream.handler peer lawful.arguments freshFar) decodes
  refine relies.when ?_
  intro through
  refine ⟨⟨?_, ?_⟩, ?_, through.quiescent⟩
  · rw [nearFrame]
    exact through.starts.opened
  · rw [nearFrame]
    exact through.starts.requested
  · rw [farFrame]
    exact through.answered

/-- A call whose request is taken can always get through. -/
theorem completes (starts : stream.Starts wire)
    {now : Duplex (Option IoError) Empty ClientEvent IoError (State σ Unit) ServerEvent IoError}
    (reachable : Duplex.Reachable (stream.near wire) (stream.far wire peer) stream.start now) :
    Duplex.Completes (stream.near wire) (stream.far wire peer) now := by
  obtain ⟨nearFrame, -⟩ := reachable.frame
  have written (recv : RecvStream IoError) :
      (stream.near wire).output { now.near with recv } =
        frame (stream.call.requestFrame wire) := by
    have fresh : ({ now.near with recv } : Caller).log = [] := by rw [nearFrame]; rfl
    refine (stream.call.asked wire peer fresh).written ⟨?_, ?_⟩
    · rw [nearFrame]
      exact starts.opened
    · rw [nearFrame]
      exact starts.requested
  refine (reachable.delivered rfl rfl).completes ?_
  intro recv
  rw [written recv]
  exact (written now.near.recv).symm

end ClientStream

end ReviewProtocol
