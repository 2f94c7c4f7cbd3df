import ReviewProtocol.Classification
import ReviewProtocol.Encoding.Format
import ReviewProtocol.Integrity
import ReviewProtocol.Mediation

set_option autoImplicit false

/- The two ends of a connection may be of different releases. An end that has no such code, or
that cannot read the arguments, calls nothing for a request. An agent says so, and the method
of the manager fails with what it says. -/
namespace ReviewProtocol

open Framing (Bytes Act SendStream Halt Party Duplex frame Faithful Asked Arrives Beside)
open Client (ClientCall ClientEvent)
open Server (Manager ManagerAct ManagerEvent ApiError Opening Method Sending ServerCall ServerEvent
  State HandedBack answersRead sentChunks)

variable {σ τ σ' τ' ι κ α : Type}

/-- What an agent answers to a request that it does not take up. -/
def Plan.refusal (code : UInt32) : Plan σ → Option String
  | undecodable _ => some (undecodableArgsMessage code)
  | answer .unit (.error text) => some text
  | _ => none

/-- That answer, as it is written. -/
def refusing (wire : Wire) (text : String) : Bytes := wire.encode (.result .unit) (.error text)

/-- A request that is not taken up is answered, unless that fails, and nothing else is done. -/
theorem Plan.refused (wire : Wire) (handler : NodeHandler σ) {code : UInt32} {plan : Plan σ}
    {text : String} (refusal : plan.refusal code = some text) (w : Agent σ) :
    (w.send.outcome w.send.attempts (refusing wire text) = none ∧
      ((plan.perform wire handler code).run w).2.log = w.log ++ [.replied .unit (.error text)]) ∨
    (w.send.outcome w.send.attempts (refusing wire text) ≠ none ∧
      ((plan.perform wire handler code).run w).2.log = w.log) := by
  unfold Plan.refusal at refusal
  split at refusal
  · rename_i error
    cases refusal
    have unfolded : ((Plan.undecodable error : Plan σ).perform wire handler code).run w =
        Act.andThen ((trySend wire .unit (.error (undecodableArgsMessage code)) :
          AgentAct σ _).run w) fun _ => Act.fail (.recvError error) := rfl
    have wrote := sendResponse_log wire .unit (.error (undecodableArgsMessage code)) w
    have same : ((sendResponse wire .unit (.error (undecodableArgsMessage code)) :
        AgentAct σ Unit).run w).2.log =
          (((Plan.undecodable error : Plan σ).perform wire handler code).run w).2.log := by
      rw [unfolded, sendResponse, Act.run_bind]
      rcases run_trySend wire .unit (.error (undecodableArgsMessage code)) w with
        sent | ⟨failure, lost⟩
      · rw [sent]
        rfl
      · rw [lost]
        rfl
    rw [same] at wrote
    exact wrote
  · cases refusal
    exact sendResponse_log wire .unit _ w
  · cases refusal

/-- All that an agent can come to on the stream of a request that it does not take up. -/
theorem Loop.refuses (wire : Wire) (loop : Loop σ) {code : UInt32} {body : Bytes} {text : String}
    (refusal : (loop.plan wire code body).refusal code = some text) {w : Agent σ}
    (fresh : w.log = []) (arrives : Arrives (Wire.requestFrame code body) w.recv.bytes) :
    Framing.Served (agentParty wire loop) calls (Wire.requestFrame code body)
      (some (refusing wire text)) []
      (w.send.outcome w.send.attempts (refusing wire text) = none) w := by
  have act : (agentParty wire loop).act = (agentProtocol wire).serve (goOn (loop.arms wire)) :=
    loop.run_eq_serve wire
  rcases (agentProtocol wire).serve_one (goOn (loop.arms wire)) arrives
    (wire.splitRequest_requestFrame code body) with ⟨other, log⟩ | ⟨whole, log⟩
  · apply Framing.Served.idle other
    · rw [act, log, fresh]
      rfl
    · rw [Party.output, act, log, fresh]
      rfl
  · let v := (agentProtocol wire).atRequest w [] (code, body)
    have begun : v.log = [.request code body] := by
      show w.log ++ [_] = _
      rw [fresh]
      rfl
    have arm : ((goOn (loop.arms wire) (code, body)).run v).2.log =
        (((loop.plan wire code body).perform wire loop.nodeHandler code).run v).2.log := by
      rw [run_goOn, ← loop.arms_eq]
      rcases (loop.arms wire code body).run v with ⟨halt | value, v'⟩
      · rfl
      · rfl
    rw [arm] at log
    rcases Plan.refused wire loop.nodeHandler refusal v with ⟨taken, made⟩ | ⟨lost, made⟩
    · rw [made, begun] at log
      apply Framing.Served.answered whole
      · rw [act, log]
        rfl
      · rw [Party.output, act, log]
        exact List.append_nil _
      · intro response mem
        rw [← Option.mem_some.mp mem]
        exact w.send.fits _ _ taken
    · rw [made, begun] at log
      apply Framing.Served.lost whole
      · rw [act, log]
        rfl
      · rw [Party.output, act, log]
        rfl
      · exact lost

/-! ### The manager's methods -/

/-- The response that a method waits for first. -/
def Server.Sending.awaits : Sending α → Option WireTy
  | silent _ _ _ _ => none
  | single _ _ _ ret _ => some ret
  | install _ _ => some .installPreflight

/-- What a method comes to when it is answered with this text. -/
def Server.Sending.turnedAway (text : String) : Sending α → Except (Halt ApiError) α
  | silent _ _ _ value => .ok value
  | single _ _ _ _ _ => .error (.failed (.message text))
  | install _ _ => .error (.failed (.message text))

def Server.Sending.Waits : Sending α → Prop
  | silent _ _ _ _ => False
  | single _ _ _ _ _ => True
  | install _ _ => True

/-- What an install makes of a response, if that turns it away. -/
def Server.denying (wire : Wire) (body : Bytes) : Option (Except (Halt ApiError) α) :=
  match wire.decode (.result .installPreflight) body with
  | .ok (.error text) => some (.error (.failed (.message text)))
  | _ => none

/-- An install to which nothing but a refusal arrives: all that it can come to. -/
theorem Server.Method.askedInstall (wire : Wire) (method : Method τ) {fields : Install}
    {wrap : Server.InstallOutcome → method.Outcome}
    (accepted : method.sending = some (.install fields wrap)) {w : Manager τ} (fresh : w.log = [])
    {response : Bytes} {text : String} (only : Arrives response w.recv.bytes)
    (understood : wire.decode (.result .installPreflight) response = .ok (.error text)) :
    Asked (managerParty (method.act wire))
      (method.Starts (Server.installFrame wire (.install fields)) w) Server.HasRead
      (Server.installFrame wire (.install fields)) (Server.denying wire) w := by
  have act : (managerParty (method.act wire)).act = method.act wire := rfl
  obtain ⟨next, shape⟩ : ∃ next : InstallPreflight → ManagerAct τ Server.InstallOutcome,
      Server.installExchange wire (.install fields) fields.size = (do
        Server.openBi
        Server.sendRaw wire .nodePackage .nodePackageRequest (.install fields)
        let verdict ← Server.recvResult wire .installPreflight
          (some "receiving the install preflight verdict")
        next verdict) := ⟨_, rfl⟩
  have performs (v : Manager τ) : ((Sending.install fields wrap).perform wire).run v =
      Act.andThen ((do
        Server.openBi
        Server.sendRaw wire .nodePackage .nodePackageRequest (.install fields)
        let verdict ← Server.recvResult wire .installPreflight
          (some "receiving the install preflight verdict")
        next verdict).run v) (pure ∘ wrap) := by
    rw [← shape]
    rfl
  rcases Method.run_dialing wire method accepted performs fresh with
    ⟨unstarted, error, w', ran, unwritten, unread⟩ | ⟨small, v, ran, recv, unwritten, unread⟩
  · apply Asked.undialed unstarted
    · rw [Party.output, act, ran]
      exact unwritten
    · intro value success
      rw [act, ran] at success
      cases success
    · rw [act, ran]
      exact not_not_intro unread
  · let asking := Server.requesting .nodePackage
      (wire.encode .nodePackageRequest (.install fields)) v
    have written : (managerParty (method.act wire)).written asking.log =
        frame (Server.installFrame wire (.install fields)) := by
      rw [← List.append_nil asking.log]
      exact written_requesting unwritten rfl _ _
    have unanswered : answersRead asking.log = [] := by
      show answersRead (v.log ++ _) = []
      rw [Server.answersRead_append, unread]
      rfl
    rw [Act.run_bind] at ran
    have unread {w' : Manager τ} {error : Halt ApiError} (incomplete :
        Framing.splitFrame w.recv.bytes = none)
        (stopped : (method.act wire).run w = (.error error, w')) (log : w'.log = asking.log) :
        Asked (managerParty (method.act wire))
          (method.Starts (Server.installFrame wire (.install fields)) w) Server.HasRead
          (Server.installFrame wire (.install fields)) (Server.denying wire) w := by
      apply Asked.unread _ small incomplete
      · intro value success
        rw [act, stopped] at success
        cases success
      · rw [act, stopped]
        unfold Server.HasRead
        rw [log]
        exact not_not_intro unanswered
      · rw [Party.output, act, stopped, log]
        exact written
    rcases Server.run_recvResult wire .installPreflight
      (some "receiving the install preflight verdict") asking with
      ⟨waiting, read⟩ | ⟨result, body, rest, answer, read⟩ | ⟨error, stream, missing, read⟩
    · rw [read] at ran
      apply unread _ ran rfl
      rw [← recv]
      exact waiting.incomplete
    · have bytes : w.recv.bytes = frame body ++ rest := by
        rw [← recv]
        exact answer.bytes
      have decoded := answer.decoded
      rw [only.whole bytes answer.fits, understood] at decoded
      cases decoded
      rw [read] at ran
      apply Asked.decoded body rest _ small bytes answer.fits
      · rw [act, ran]
        simp only [Server.denying, only.whole bytes answer.fits, understood]
        rfl
      · rw [Party.output, act, ran]
        exact written_requesting unwritten rfl _ _
    · rw [read] at ran
      rcases missing with incomplete | ⟨body, rest, failure, bytes, fits, undecoded⟩
      · apply unread _ ran rfl
        rw [← recv]
        exact incomplete
      · have whole : w.recv.bytes = frame body ++ rest := by
          rw [← recv]
          exact bytes
        rw [only.whole whole fits, understood] at undecoded
        cases undecoded

/-- A method that has not begun, and an agent, perhaps of another release, at the other end of
the stream it will open. -/
structure SkewedStream (σ τ : Type) where
  managerWire : Wire
  agentWire : Wire
  method : Method τ
  loop : Loop σ
  policy : τ
  state : σ
  refused : Option IoError
  managerSend : SendStream IoError
  agentSend : SendStream IoError

namespace SkewedStream

variable (stream : SkewedStream σ τ)

def near : Party (Opening τ) (Except IoError Bytes) ManagerEvent IoError ApiError
    stream.method.Outcome :=
  managerParty (stream.method.act stream.managerWire)

def far : Party σ Empty AgentEvent IoError HandlerError Unit :=
  agentParty stream.agentWire stream.loop

def start : Duplex (Opening τ) (Except IoError Bytes) ManagerEvent IoError σ AgentEvent IoError :=
  dialing stream.policy stream.refused stream.state stream.managerSend stream.agentSend

/-- The agent does not take up what the method sends, and its answer can be read. -/
structure Refuses (sending : Sending stream.method.Outcome) (text : String) : Prop where
  accepted : stream.method.sending = some sending
  refusal : (stream.loop.plan stream.agentWire sending.code.discriminant
    (sending.body stream.managerWire)).refusal sending.code.discriminant = some text
  understood : ∀ ret ∈ sending.awaits,
    stream.managerWire.decode (.result ret) (refusing stream.agentWire text) = .ok (.error text)

/-- The request and its answer were taken, and nothing is on its way. -/
structure Through (sending : Sending stream.method.Outcome) (text : String)
    (now : Duplex (Opening τ) (Except IoError Bytes) ManagerEvent IoError σ AgentEvent IoError) :
    Prop where
  permitted : stream.method.Permitted stream.policy
  opened : stream.refused = none
  requested : stream.managerSend.outcome stream.managerSend.attempts
    (sending.frame stream.managerWire) = none
  answered : stream.agentSend.outcome stream.agentSend.attempts
    (refusing stream.agentWire text) = none
  quiescent : Duplex.Quiescent stream.near stream.far now

/-- Nothing is called at the agent, and all that the method can come to is the refusal, or a
failure of the stream. Of a package nothing is sent. -/
structure TurnedAway (sending : Sending stream.method.Outcome) (text : String)
    (now : Duplex (Opening τ) (Except IoError Bytes) ManagerEvent IoError σ AgentEvent IoError) :
    Prop where
  faithful : Faithful [] (calls ((stream.loop.run stream.agentWire).run now.far).2.log)
    ((stream.method.act stream.managerWire).run now.near).1 (sending.turnedAway text)
    sending.Waits
    (Server.HasRead ((stream.method.act stream.managerWire).run now.near).2.log)
    (stream.Through sending text now)
  unsent : ∀ fields wrap, sending = .install fields wrap →
    sentChunks ((stream.method.act stream.managerWire).run now.near).2.log = []

variable {stream} {sending : Sending stream.method.Outcome} {text : String}
  {now : Duplex (Opening τ) (Except IoError Bytes) ManagerEvent IoError σ AgentEvent IoError}

theorem turnedAway (refuses : stream.Refuses sending text)
    (reachable : Duplex.Reachable stream.near stream.far stream.start now) :
    stream.TurnedAway sending text now := by
  have delivered := reachable.delivered rfl rfl
  obtain ⟨nearFrame, farFrame⟩ := reachable.frame
  have freshNear : now.near.log = [] := by rw [nearFrame]; rfl
  have freshFar : now.far.log = [] := by rw [farFrame]; rfl
  have served := stream.loop.refuses stream.agentWire refuses.refusal (w := now.far) freshFar
  have starts (through : stream.Through sending text now) :
      stream.method.Starts (sending.frame stream.managerWire) now.near ∧
        now.far.send.outcome now.far.send.attempts (refusing stream.agentWire text) = none ∧
        Duplex.Quiescent stream.near stream.far now := by
    refine ⟨⟨?_, ?_, ?_⟩, ?_, through.quiescent⟩
    · rw [nearFrame]
      exact through.permitted
    · rw [nearFrame]
      exact through.opened
    · rw [nearFrame]
      exact through.requested
    · rw [farFrame]
      exact through.answered
  have accepted := refuses.accepted
  cases sending with
  | silent code ty payload value =>
      obtain ⟨told, unanswered⟩ :=
        Method.told stream.managerWire stream.method accepted freshNear
      refine ⟨(Framing.faithful_of_told delivered told unanswered served).when starts, ?_⟩
      intro fields wrap same
      cases same
  | single code ty payload ret wrap =>
      have decodes : Server.concluding stream.managerWire ret wrap
          (refusing stream.agentWire text) = some (.error (.failed (.message text))) := by
        simp only [Server.concluding, refuses.understood ret rfl]
        rfl
      refine ⟨(Framing.faithful_of_asked delivered
        (Method.asked stream.managerWire stream.method accepted freshNear) served
        decodes).when starts, ?_⟩
      intro fields wrap same
      cases same
  | install fields wrap =>
      have understood : stream.managerWire.decode (.result .installPreflight)
          (refusing stream.agentWire text) = .ok (.error text) := refuses.understood _ rfl
      obtain ⟨toNear, toFar⟩ := Framing.arrives_of_reachable reachable rfl rfl
        (fun w same arrives => (stream.method.askedInstall stream.managerWire accepted
          (by rw [same]; rfl) arrives understood).output_cases)
        (fun w same arrives => (stream.loop.refuses stream.agentWire refuses.refusal
          (by rw [same]; rfl) arrives).output_cases)
      have decodes : Server.denying stream.managerWire (refusing stream.agentWire text) =
          some (.error (.failed (.message text)) : Except _ stream.method.Outcome) := by
        simp only [Server.denying, understood]
      refine ⟨(Framing.faithful_of_asked delivered (stream.method.askedInstall stream.managerWire
        accepted freshNear toNear understood) served decodes).when starts, ?_⟩
      intro other wrap' same
      cases same
      cases stream.method.installing stream.managerWire accepted freshNear with
      | unsent silent none => exact none
      | requested fits written none => exact none
      | streaming fits written sends body rest answer =>
          have decoded := answer.decoded
          rw [toNear.whole answer.bytes answer.fits, understood] at decoded
          cases decoded

/-- In the wire format of the crate a refusal reads the same whatever was to be answered. -/
theorem understood_standard (foreign : Encoding.Foreign) (text : String) (ret : WireTy) :
    (Encoding.standard foreign).decode (.result ret)
      (refusing (Encoding.standard foreign) text) = .ok (.error text) := by
  have read := Encoding.standard_followed foreign (.result ret) (.error text) []
  rw [List.append_nil] at read
  exact read

/-- An agent that serves node requests only takes up no `send_*` method. -/
theorem refuses_flat (foreign : Encoding.Foreign) (handler : NodeHandler σ)
    (send : Server.FlatSend) (managerWire : managerWire stream = Encoding.standard foreign)
    (agentWire : agentWire stream = Encoding.standard foreign)
    (loop : stream.loop = .handleNode handler) {sending : Sending stream.method.Outcome}
    (accepted : stream.method.sending = some sending)
    (flat : sending.code = send.sending.code) :
    stream.Refuses sending (unknownRequestMessage sending.code.discriminant) := by
  refine ⟨accepted, ?_, ?_⟩
  · rw [loop, flat]
    simp only [Loop.plan, NodeHandler.plan, Client.RequestCode.fromPrimitive_discriminant]
    cases send <;> rfl
  · intro ret awaited
    rw [managerWire, agentWire]
    exact understood_standard foreign _ ret

end SkewedStream

/-! ### Calls from agents -/

/-- A call that has not begun, and a manager, perhaps of another release, at the other end. -/
structure SkewedCall (σ τ : Type) where
  clientWire : Wire
  serverWire : Wire
  call : ClientCall
  handler : Server.Handler σ
  gate : Server.Gate τ
  state : σ
  policy : τ
  refused : Option IoError
  clientSend : SendStream IoError
  serverSend : SendStream IoError

namespace SkewedCall

variable (stream : SkewedCall σ τ)

def near : Party (Option IoError) Empty ClientEvent IoError IoError stream.call.Outcome :=
  clientParty (stream.call.act stream.clientWire)

def far : Party (State σ τ) Empty ServerEvent IoError IoError HandedBack :=
  gatedParty stream.serverWire stream.handler stream.gate

def start :
    Duplex (Option IoError) Empty ClientEvent IoError (State σ τ) ServerEvent IoError where
  near := ⟨stream.refused, [], ⟨[], none⟩, stream.clientSend, []⟩
  far := ⟨⟨stream.state, stream.policy⟩, [], ⟨[], none⟩, stream.serverSend, []⟩

def body : Bytes := stream.clientWire.encode stream.call.asking.ty stream.call.asking.payload

def counterpart : Counterpart stream.call.Outcome := stream.call.counterpart stream.gate.peerName

def verdict : Except AuthorizationError Unit :=
  (stream.gate.ask stream.call.service stream.policy).1

/-- What the manager writes: nothing, unless its policy says no. -/
def reply : Option Bytes :=
  match stream.verdict with
  | .ok () => none
  | .error _ => some (refusing stream.serverWire "authorization denied")

/-- The manager cannot read the arguments, and a denial can be read. -/
structure Unread : Prop where
  undecodable : ∃ error, Server.planOf stream.serverWire stream.gate.peerName
    stream.call.asking.code.discriminant stream.body = .undecodable error
  understood : stream.clientWire.decode (.result stream.counterpart.call.ret)
    (refusing stream.serverWire "authorization denied") = .ok (.error "authorization denied")

/-- Nothing is called at the manager, whatever its policy says, and the call does not succeed. -/
structure TurnedAway
    (now : Duplex (Option IoError) Empty ClientEvent IoError (State σ τ) ServerEvent IoError) :
    Prop where
  uncalled : callsServed ((stream.gate.loop stream.serverWire stream.handler).run now.far).2.log = []
  asked : answersGiven ((stream.gate.loop stream.serverWire stream.handler).run now.far).2.log <+:
    [(stream.call.service, stream.verdict)]
  failed : ∀ value, ((stream.call.act stream.clientWire).run now.near).1 ≠ .ok value
  denied : HasRead ((stream.call.act stream.clientWire).run now.near).2.log →
    stream.verdict ≠ .ok () ∧ ((stream.call.act stream.clientWire).run now.near).1 =
      ended (stream.counterpart.returned (.error "authorization denied"))

variable {stream}

/-- An arm asks the policy, and then does nothing, or answers that it does not. -/
theorem run_unread (unread : stream.Unread) {w : Server.Peer σ τ}
    (policy : w.state.policy = stream.policy) :
    ∃ replies, ((stream.gate.arms stream.serverWire stream.handler
        (stream.call.asking.code.discriminant, stream.body)).run w).2.log =
          w.log ++ (.authorized stream.call.service stream.verdict :: replies) ∧
      callsServed replies = [] ∧ answersGiven replies = [] ∧
      ((stream.far.written replies = stream.reply.elim [] frame ∧
        ∀ response ∈ stream.reply, w.send.outcome w.send.attempts response = none) ∨
      (stream.far.written replies = [] ∧
        ¬ ∀ response ∈ stream.reply, w.send.outcome w.send.attempts response = none)) := by
  obtain ⟨⟨error, planned⟩, -⟩ := unread
  have arm : (Server.handleAuthorizedArms stream.serverWire stream.handler stream.gate.peerName
      stream.call.asking.code.discriminant stream.body : Server.ServerAct σ τ _) =
        Act.fail error := by
    rw [Server.handleAuthorizedArms_eq, planned]
    rfl
  unfold Server.Gate.arms
  rw [Server.RequestCode.fromPrimitive_discriminant, stream.call.named]
  dsimp only
  rw [arm, Act.run_bind, run_checkAuthorization, policy, Act.andThen_ok]
  dsimp only
  cases given : (stream.gate.ask stream.call.service stream.policy).1 with
  | ok done =>
      have verdict : stream.verdict = .ok done := given
      have silent : stream.reply = none := by simp only [reply, verdict]
      rw [silent, verdict]
      refine ⟨[], rfl, rfl, rfl, .inl ⟨rfl, ?_⟩⟩
      intro response mem
      cases mem
  | error error =>
      have verdict : stream.verdict = .error error := given
      have denial : stream.reply = some (refusing stream.serverWire "authorization denied") := by
        simp only [reply, verdict]
      rw [denial, verdict]
      dsimp only
      rw [Act.run_bind]
      let v : Server.Peer σ τ :=
        { w with
          state.policy := (stream.gate.ask stream.call.service stream.policy).2
          log := w.log ++ [.authorized stream.call.service (.error error)] }
      rcases Server.run_respond stream.serverWire .unit (.error "authorization denied") v with
        ⟨taken, sent⟩ | ⟨failure, lost, sent⟩
      · rw [sent]
        refine ⟨[.replied .unit (.error "authorization denied")], ?_, rfl, rfl,
          .inl ⟨List.append_nil _, ?_⟩⟩
        · exact List.append_assoc _ _ _
        · intro response mem
          rw [← Option.mem_some.mp mem]
          exact taken
      · rw [sent]
        refine ⟨[], rfl, rfl, rfl, .inr ⟨rfl, ?_⟩⟩
        intro taken
        cases lost.symm.trans (taken _ rfl)

/-- All that the manager can come to on the stream of a call that it cannot read. -/
theorem served (unread : stream.Unread) {w : Server.Peer σ τ} (fresh : w.log = [])
    (policy : w.state.policy = stream.policy)
    (arrives : Arrives (stream.call.requestFrame stream.clientWire) w.recv.bytes) :
    Framing.Served stream.far callsServed (stream.call.requestFrame stream.clientWire) stream.reply
      [] (∀ response ∈ stream.reply, w.send.outcome w.send.attempts response = none) w ∧
    answersGiven (stream.far.act.run w).2.log <+: [(stream.call.service, stream.verdict)] := by
  have act : stream.far.act = (Server.serverProtocol stream.serverWire).serve
      (stream.gate.arms stream.serverWire stream.handler) :=
    stream.gate.loop_eq_serve stream.serverWire stream.handler
  rcases (Server.serverProtocol stream.serverWire).serve_one
    (stream.gate.arms stream.serverWire stream.handler) arrives
    (stream.serverWire.splitRequest_requestFrame stream.call.asking.code.discriminant _) with
    ⟨other, log⟩ | ⟨whole, log⟩
  · rw [fresh] at log
    refine ⟨.idle other ?_ ?_, ?_⟩
    · rw [act, log]
      rfl
    · rw [Party.output, act, log]
      rfl
    · rw [act, log]
      exact List.nil_prefix
  · let v := (Server.serverProtocol stream.serverWire).atRequest w []
      (stream.call.asking.code.discriminant, stream.body)
    have begun : v.log = [.request stream.call.asking.code.discriminant stream.body] := by
      show w.log ++ [_] = _
      rw [fresh]
      rfl
    obtain ⟨replies, ran, uncalled, unasked, written⟩ := run_unread unread (w := v) policy
    have logged : (stream.far.act.run w).2.log =
        .request stream.call.asking.code.discriminant stream.body ::
          .authorized stream.call.service stream.verdict :: replies := by
      rw [act, log]
      apply ran.trans
      rw [begun]
      rfl
    have output : stream.far.output w = stream.far.written replies := by
      rw [Party.output, logged]
      rfl
    have called : callsServed (stream.far.act.run w).2.log = [] := by
      rw [logged]
      exact uncalled
    constructor
    · rcases written with ⟨wrote, taken⟩ | ⟨silent, lost⟩
      · apply Framing.Served.answered whole called (output.trans wrote)
        intro response mem
        exact w.send.fits _ _ (taken response mem)
      · exact .lost whole called (output.trans silent) lost
    · rw [logged]
      show (stream.call.service, stream.verdict) :: answersGiven replies <+: _
      rw [unasked]

/-- A handler's error is an error to the caller of any call. -/
theorem returned_error (peer : String) (call : ClientCall) (text : String) (value : call.Outcome) :
    ended ((call.counterpart peer).returned (.error text)) ≠ .ok value := by
  cases call <;>
    (intro success
     cases success)

theorem turnedAway (unread : stream.Unread)
    {now : Duplex (Option IoError) Empty ClientEvent IoError (State σ τ) ServerEvent IoError}
    (reachable : Duplex.Reachable stream.near stream.far stream.start now) :
    stream.TurnedAway now := by
  have delivered := reachable.delivered rfl rfl
  obtain ⟨nearFrame, farFrame⟩ := reachable.frame
  have freshNear : now.near.log = [] := by rw [nearFrame]; rfl
  have freshFar : now.far.log = [] := by rw [farFrame]; rfl
  have policy : now.far.state.policy = stream.policy := by rw [farFrame]; rfl
  have asked := stream.call.asked stream.clientWire stream.gate.peerName freshNear
  have arrives : Arrives (stream.call.requestFrame stream.clientWire) now.far.recv.bytes :=
    Framing.arrives_of_sent delivered.toFar asked.output_cases
  obtain ⟨served, questions⟩ := served unread freshFar policy arrives
  cases verdict : stream.verdict with
  | ok done =>
      have silent : stream.reply = none := by simp only [reply, verdict]
      rw [silent] at served
      -- Nothing comes back, so there is nothing to read.
      have unwritten : stream.far.output now.far = [] := by
        cases served with
        | idle other uncalled unwritten => exact unwritten
        | answered whole called written fits => exact written
        | lost whole called unwritten refused => exact unwritten
      have unheard {body rest : Bytes} (bytes : now.near.recv.bytes = frame body ++ rest) :
          False := by
        have toNear := delivered.toNear
        rw [unwritten, bytes] at toNear
        have length := congrArg List.length (List.prefix_nil.mp toNear)
        rw [List.length_append, Framing.length_frame, List.length_nil] at length
        omega
      have gets : (∀ value, ((stream.call.act stream.clientWire).run now.near).1 ≠ .ok value) ∧
          ¬ HasRead ((stream.call.act stream.clientWire).run now.near).2.log := by
        cases asked with
        | undialed undialed silent failed unanswered => exact ⟨failed, unanswered⟩
        | unread written small incomplete failed unanswered => exact ⟨failed, unanswered⟩
        | undecoded body rest written small bytes fits undecoded => exact (unheard bytes).elim
        | decoded body rest written small bytes fits decoded => exact (unheard bytes).elim
      exact ⟨List.prefix_nil.mp served.atMostOnce, questions, gets.1, fun read => absurd read gets.2⟩
  | error error =>
      have denial : stream.reply = some (refusing stream.serverWire "authorization denied") := by
        simp only [reply, verdict]
      rw [denial] at served
      have decodes : stream.call.concluding stream.clientWire stream.counterpart
          (refusing stream.serverWire "authorization denied") =
            some (ended (stream.counterpart.returned (.error "authorization denied"))) := by
        simp only [Client.ClientCall.concluding, unread.understood]
      have faithful := Framing.faithful_of_asked delivered asked (fun _ => served) decodes
      refine ⟨List.prefix_nil.mp faithful.atMostOnce, questions, ?_, ?_⟩
      · intro value success
        exact returned_error stream.gate.peerName stream.call _ value
          (faithful.success value success).1
      · intro read
        refine ⟨?_, (faithful.genuine read).2⟩
        rw [verdict]
        intro allowed
        cases allowed

end SkewedCall

/-- A connection between two releases, with methods of the manager and calls of the agent. -/
def SkewedConnection.Reaches (downs : ι → SkewedStream σ τ) (ups : κ → SkewedCall σ' τ')
    (now : (ι → Duplex (Opening τ) (Except IoError Bytes) ManagerEvent IoError σ AgentEvent IoError) ×
      (κ → Duplex (Option IoError) Empty ClientEvent IoError (State σ' τ') ServerEvent IoError)) :
    Prop :=
  Relation.ReflTransGen
    (Beside (Duplex.StepAny (fun i => (downs i).near) fun i => (downs i).far)
      (Duplex.StepAny (fun k => (ups k).near) fun k => (ups k).far))
    (fun i => (downs i).start, fun k => (ups k).start) now

/-- Whatever else the connection carries, and whatever the two releases make of each other's
frames: for a request that the other end does not take up nothing is called there, and its
caller is never told that it was. -/
theorem skew_fails_closed (downs : ι → SkewedStream σ τ) (ups : κ → SkewedCall σ' τ')
    (now : (ι → Duplex (Opening τ) (Except IoError Bytes) ManagerEvent IoError σ AgentEvent IoError) ×
      (κ → Duplex (Option IoError) Empty ClientEvent IoError (State σ' τ') ServerEvent IoError))
    (reaches : SkewedConnection.Reaches downs ups now) :
    (∀ i sending text, (downs i).Refuses sending text →
      (downs i).TurnedAway sending text (now.1 i)) ∧
    ∀ k, (ups k).Unread → (ups k).TurnedAway (now.2 k) := by
  obtain ⟨down, up⟩ := Framing.reachable_beside reaches
  constructor
  · intro i sending text refuses
    exact SkewedStream.turnedAway refuses (Duplex.ReachableAll.stream down i)
  · intro k unread
    exact SkewedCall.turnedAway unread (Duplex.ReachableAll.stream up k)

/-- A manager that asks for an echo of an agent that serves node requests only. -/
def sampleEcho : SkewedStream Unit Unit where
  managerWire := Encoding.bincode
  agentWire := Encoding.bincode
  method := .flat .ping
  loop := .handleNode eagerHandler.toNodeHandler
  policy := ()
  state := ()
  refused := none
  managerSend := .healthy (.simple .invalidInput)
  agentSend := .healthy (.simple .invalidInput)

/-- A manager that can read nothing. -/
def sampleUnread : SkewedCall Unit Unit where
  clientWire := Encoding.bincode
  serverWire := { Encoding.bincode with decode := fun _ _ => .error (.simple .invalidData) }
  call := .insertModel [1, 2, 3]
  handler := ⟨fun _ state => (.error "not supported", state)⟩
  gate := .legacy (.new "agent") noopAuthorizer
  state := ()
  policy := ()
  refused := none
  clientSend := .healthy (.simple .invalidInput)
  serverSend := .healthy (.simple .invalidInput)

/-- The request for an echo and its answer have arrived. -/
def sampleEchoed :
    Duplex (Opening Unit) (Except IoError Bytes) ManagerEvent IoError Unit AgentEvent IoError :=
  (sampleEcho.start.deliverFar sampleEcho.near).deliverNear sampleEcho.far

theorem sampleEchoed_reached :
    SkewedConnection.Reaches (fun _ : Unit => sampleEcho) (fun _ : Unit => sampleUnread)
      (fun _ => sampleEchoed, fun _ => sampleUnread.start) := by
  have start : Duplex.Delivered sampleEcho.near sampleEcho.far sampleEcho.start :=
    Duplex.Reachable.delivered .refl rfl rfl
  have asks := start.step_deliverFar rfl
  have answers := (start.step asks).step_deliverNear rfl
  apply Relation.ReflTransGen.tail
    (b := (fun _ => sampleEcho.start.deliverFar sampleEcho.near, fun _ => sampleUnread.start))
  · exact .single (.inl ⟨⟨(), asks, fun _ other => absurd rfl other⟩, rfl⟩)
  · exact .inl ⟨⟨(), answers, fun _ other => absurd rfl other⟩, rfl⟩

theorem skew_fails_closed_sample :
    ((Server.sendPing Encoding.bincode).run sampleEchoed.near).1 =
      .error (.failed (.message (unknownRequestMessage 17))) ∧
    ∀ value, ((Client.insertModel Encoding.bincode [1, 2, 3]).run sampleUnread.start.near).1 ≠
      .ok value := by
  obtain ⟨down, up⟩ := skew_fails_closed (fun _ : Unit => sampleEcho)
    (fun _ : Unit => sampleUnread) _ sampleEchoed_reached
  have refuses : sampleEcho.Refuses (.single .echoRequest .unit () .unit id)
      (unknownRequestMessage 17) := by
    refine ⟨rfl, rfl, ?_⟩
    intro ret awaited
    cases awaited
    rfl
  constructor
  · exact ((down () _ _ refuses).faithful.through ⟨trivial, rfl, rfl, rfl, ⟨rfl, rfl⟩⟩).2
  · exact (up () ⟨⟨_, rfl⟩, rfl⟩).failed

end ReviewProtocol
