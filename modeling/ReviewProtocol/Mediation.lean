import ReviewProtocol.Client.Fidelity
import ReviewProtocol.Encoding

set_option autoImplicit false

/- Calls from agents under a policy: the authorizer decides about each call before its handler
method is called, and what it decided is what the caller gets to know. -/
namespace ReviewProtocol

open Framing (Bytes Act SendStream Halt Party Duplex frame Faithful)
open Client (ClientCall ClientEvent)
open Server (ServerCall ServerEvent State HandedBack)

variable {σ τ ι : Type}

/-- The manager's loop under a policy, in either version. -/
def gatedParty (wire : Wire) (handler : Server.Handler σ) (gate : Server.Gate τ) :
    Party (State σ τ) Empty ServerEvent IoError IoError HandedBack where
  act := gate.loop wire handler
  body
    | .replied ty result => some (wire.encode (.result ty) result)
    | _ => none

/-- The services that the policy was asked about, with its answers. -/
def answersGiven (log : List ServerEvent) : List (ServiceId × Except AuthorizationError Unit) :=
  log.filterMap fun
    | .authorized service answer => some (service, answer)
    | _ => none

theorem answersGiven_append (first second : List ServerEvent) :
    answersGiven (first ++ second) = answersGiven first ++ answersGiven second :=
  List.filterMap_append

/-- Every call is for some service. -/
theorem Client.ClientCall.isSome_service (call : ClientCall) :
    (fromServerRequestCode call.asking.code).isSome := by
  cases call <;> rfl

def Client.ClientCall.service (call : ClientCall) : ServiceId :=
  (fromServerRequestCode call.asking.code).get call.isSome_service

theorem Client.ClientCall.named (call : ClientCall) :
    fromServerRequestCode call.asking.code = some call.service :=
  (Option.some_get call.isSome_service).symm

/-- A call that has not begun, and a handler under a policy at the other end of its stream. -/
structure MediatedStream (σ τ : Type) where
  call : ClientCall
  handler : Server.Handler σ
  gate : Server.Gate τ
  state : σ
  policy : τ
  refused : Option IoError
  clientSend : SendStream IoError
  serverSend : SendStream IoError

namespace MediatedStream

variable (wire : Wire) (stream : MediatedStream σ τ)

def near : Party (Option IoError) Empty ClientEvent IoError IoError stream.call.Outcome :=
  clientParty (stream.call.act wire)

def far : Party (State σ τ) Empty ServerEvent IoError IoError HandedBack :=
  gatedParty wire stream.handler stream.gate

def start :
    Duplex (Option IoError) Empty ClientEvent IoError (State σ τ) ServerEvent IoError where
  near := ⟨stream.refused, [], ⟨[], none⟩, stream.clientSend, []⟩
  far := ⟨⟨stream.state, stream.policy⟩, [], ⟨[], none⟩, stream.serverSend, []⟩

/-- The handler method of the same name. -/
def counterpart : Counterpart stream.call.Outcome := stream.call.counterpart stream.gate.peerName

/-- What the policy says about the call. -/
def verdict : Except AuthorizationError Unit :=
  (stream.gate.ask stream.call.service stream.policy).1

/-- The calls of the handler that the policy lets through. -/
def calls : List ServerCall :=
  match stream.verdict with
  | .ok () => [stream.counterpart.call]
  | .error _ => []

/-- The handler's own answer, if the policy lets the call through. -/
def answer : Except String stream.counterpart.call.ret.denote :=
  match stream.verdict with
  | .ok () => (stream.handler.call stream.counterpart.call stream.state).1
  | .error _ => .error "authorization denied"

/-- The frame that the manager answers with. -/
def response : Bytes :=
  match stream.verdict with
  | .ok () => wire.encode (.result stream.counterpart.call.ret)
      (stream.handler.call stream.counterpart.call stream.state).1
  | .error _ => wire.encode (.result .unit) (.error "authorization denied")

/-- The arguments come back from the wire as they were, and the response is read as the
answer. -/
structure Lawful : Prop where
  arguments : wire.RoundTrips stream.call.asking.ty stream.call.asking.payload
  answer : wire.decode (.result stream.counterpart.call.ret) (stream.response wire) =
    .ok stream.answer

/-- The stream opens, request and response are taken, and nothing is on its way. -/
structure Through (now : Duplex (Option IoError) Empty ClientEvent IoError (State σ τ) ServerEvent
    IoError) : Prop where
  opened : stream.refused = none
  requested : stream.clientSend.outcome stream.clientSend.attempts
    (stream.call.requestFrame wire) = none
  answered : stream.serverSend.outcome stream.serverSend.attempts (stream.response wire) = none
  quiescent : Duplex.Quiescent (stream.near wire) (stream.far wire) now

end MediatedStream

/-- The policy's answer, and what follows when it is a no. -/
theorem run_checkAuthorization (wire : Wire) (service : ServiceId)
    (ask : τ → Except AuthorizationError Unit × τ) (w : Server.Peer σ τ) :
    (Server.checkAuthorization wire service ask).run w =
      Act.andThen (.ok (), { w with
        state.policy := (ask w.state.policy).2
        log := w.log ++ [.authorized service (ask w.state.policy).1] }) (fun _ =>
        match (ask w.state.policy).1 with
        | .ok () => pure ()
        | .error error => do
            Server.respond wire .unit (.error "authorization denied")
            Act.fail (Server.denied error)) := rfl

section arm

variable (wire : Wire) (stream : MediatedStream σ τ) {w : Server.Peer σ τ}

/-- What the arm writes for a call, unless the write fails. -/
structure Replies (w : Server.Peer σ τ) (replies : List ServerEvent) : Prop where
  written : (w.send.outcome w.send.attempts (stream.response wire) = none ∧
      (stream.far wire).written replies = frame (stream.response wire)) ∨
    (w.send.outcome w.send.attempts (stream.response wire) ≠ none ∧ replies = [])
  uncalled : callsServed replies = []
  unasked : answersGiven replies = []

theorem replies_one {ty : WireTy} {result : Except String ty.denote}
    (same : stream.response wire = wire.encode (.result ty) result)
    (taken : w.send.outcome w.send.attempts (wire.encode (.result ty) result) = none) :
    Replies wire stream w [.replied ty result] := by
  refine ⟨.inl ⟨by rw [same]; exact taken, ?_⟩, rfl, rfl⟩
  rw [same]
  exact List.append_nil _

theorem replies_none {ty : WireTy} {result : Except String ty.denote}
    (same : stream.response wire = wire.encode (.result ty) result)
    (lost : w.send.outcome w.send.attempts (wire.encode (.result ty) result) ≠ none) :
    Replies wire stream w [] :=
  ⟨.inr ⟨by rw [same]; exact lost, rfl⟩, rfl, rfl⟩

/-- An arm under a policy asks it about the service of the call, and then makes the call and
answers it, or answers that it does not. -/
theorem run_mediated (lawful : wire.RoundTrips stream.call.asking.ty stream.call.asking.payload)
    (state : w.state = ⟨stream.state, stream.policy⟩) :
    ∃ replies, Replies wire stream w replies ∧
      ((stream.gate.arms wire stream.handler (stream.call.asking.code.discriminant,
        wire.encode stream.call.asking.ty stream.call.asking.payload)).run w).2.log =
          w.log ++ (.authorized stream.call.service stream.verdict ::
            (stream.calls.map .called ++ replies)) := by
  have arm : (Server.handleAuthorizedArms wire stream.handler stream.gate.peerName
      stream.call.asking.code.discriminant
      (wire.encode stream.call.asking.ty stream.call.asking.payload) : Server.ServerAct σ τ _) =
        (Server.Plan.unary stream.counterpart.call).perform wire stream.handler
          stream.call.asking.code.discriminant
          (wire.encode stream.call.asking.ty stream.call.asking.payload) := by
    rw [Server.handleAuthorizedArms_eq, stream.call.planned lawful]
    rfl
  obtain ⟨held, input, recv, send, log⟩ := w
  obtain rfl : held = ⟨stream.state, stream.policy⟩ := state
  unfold Server.Gate.arms
  rw [Server.RequestCode.fromPrimitive_discriminant, stream.call.named]
  dsimp only
  rw [arm, Act.run_bind, run_checkAuthorization]
  cases verdict : stream.verdict with
  | ok done =>
      have calls : stream.calls = [stream.counterpart.call] := by
        simp only [MediatedStream.calls, verdict]
      have same : stream.response wire = wire.encode (.result stream.counterpart.call.ret)
          (stream.handler.call stream.counterpart.call stream.state).1 := by
        simp only [MediatedStream.response, verdict]
      let called : Server.Peer σ τ :=
        ⟨⟨(stream.handler.call stream.counterpart.call stream.state).2,
            (stream.gate.ask stream.call.service stream.policy).2⟩, input, recv, send,
          log ++ [.authorized stream.call.service (.ok done)] ++
            [.called stream.counterpart.call]⟩
      have given : (stream.gate.ask stream.call.service stream.policy).1 = .ok done := verdict
      rw [Act.andThen_ok]
      dsimp only
      rw [given, Act.run_pure, Act.andThen_ok, calls]
      have unfolded (u : Server.Peer σ τ) : ((Server.Plan.unary stream.counterpart.call).perform
          wire stream.handler stream.call.asking.code.discriminant
          (wire.encode stream.call.asking.ty stream.call.asking.payload)).run u =
            Act.andThen ((Server.respond wire stream.counterpart.call.ret
              (stream.handler.call stream.counterpart.call u.state.handler).1).run
                { u with
                  state.handler := (stream.handler.call stream.counterpart.call u.state.handler).2
                  log := u.log ++ [.called stream.counterpart.call] })
              fun _ => pure (.next ()) := rfl
      rw [unfolded]
      dsimp only
      let concludes (outcome : Except (Halt IoError) Unit × Server.Peer σ τ) : List ServerEvent :=
        (Act.andThen outcome fun _ =>
          (pure (.next ()) : Server.ServerAct σ τ (Act.Turn Unit HandedBack))).2.log
      rcases Server.run_respond wire stream.counterpart.call.ret
        (stream.handler.call stream.counterpart.call stream.state).1 called with
        ⟨taken, sent⟩ | ⟨failure, lost, sent⟩
      · refine ⟨_, replies_one wire stream same taken, (congrArg concludes sent).trans ?_⟩
        exact (List.append_assoc _ _ _).trans (List.append_assoc _ _ _)
      · refine ⟨[], replies_none wire stream same ?_, (congrArg concludes sent).trans ?_⟩
        · intro taken
          cases lost.symm.trans taken
        · exact List.append_assoc _ _ _
  | error error =>
      have calls : stream.calls = [] := by simp only [MediatedStream.calls, verdict]
      have same : stream.response wire =
          wire.encode (.result .unit) (.error "authorization denied") := by
        simp only [MediatedStream.response, verdict]
      have given : (stream.gate.ask stream.call.service stream.policy).1 = .error error := verdict
      let v : Server.Peer σ τ :=
        ⟨⟨stream.state, (stream.gate.ask stream.call.service stream.policy).2⟩, input, recv, send,
          log ++ [.authorized stream.call.service (.error error)]⟩
      rw [Act.andThen_ok]
      dsimp only
      rw [given, Act.run_bind, calls]
      let refuses (outcome : Except (Halt IoError) Unit × Server.Peer σ τ) : List ServerEvent :=
        (Act.andThen (Act.andThen outcome fun _ => Act.fail (Server.denied error)) fun (_ : Unit) =>
          (Server.Plan.unary stream.counterpart.call).perform wire stream.handler
            stream.call.asking.code.discriminant
            (wire.encode stream.call.asking.ty stream.call.asking.payload)).2.log
      rcases Server.run_respond wire .unit (.error "authorization denied") v with
        ⟨taken, sent⟩ | ⟨failure, lost, sent⟩
      · refine ⟨_, replies_one wire stream same taken, (congrArg refuses sent).trans ?_⟩
        exact List.append_assoc _ _ _
      · refine ⟨[], replies_none wire stream same ?_, congrArg refuses sent⟩
        intro taken
        cases lost.symm.trans taken

end arm

namespace MediatedStream

variable {wire : Wire} {stream : MediatedStream σ τ}

/-- The manager has not seen the call, or has asked the policy about it once and then dealt
with it. -/
theorem log_cases (lawful : wire.RoundTrips stream.call.asking.ty stream.call.asking.payload)
    {w : Server.Peer σ τ} (fresh : w.log = []) (state : w.state = ⟨stream.state, stream.policy⟩)
    (arrives : Framing.Arrives (stream.call.requestFrame wire) w.recv.bytes) :
    (w.recv.bytes ≠ frame (stream.call.requestFrame wire) ∧
      ((stream.gate.loop wire stream.handler).run w).2.log = []) ∨
    (w.recv.bytes = frame (stream.call.requestFrame wire) ∧
      ∃ replies, Replies wire stream w replies ∧
        ((stream.gate.loop wire stream.handler).run w).2.log =
          .request stream.call.asking.code.discriminant
            (wire.encode stream.call.asking.ty stream.call.asking.payload) ::
            .authorized stream.call.service stream.verdict ::
              (stream.calls.map .called ++ replies)) := by
  rw [stream.gate.loop_eq_serve wire stream.handler]
  rcases (Server.serverProtocol wire).serve_one (stream.gate.arms wire stream.handler) arrives
    (wire.splitRequest_requestFrame stream.call.asking.code.discriminant _) with
    ⟨other, log⟩ | ⟨whole, log⟩
  · rw [fresh] at log
    exact .inl ⟨other, log⟩
  · let v := (Server.serverProtocol wire).atRequest w [] (stream.call.asking.code.discriminant,
      wire.encode stream.call.asking.ty stream.call.asking.payload)
    obtain ⟨replies, replied, ran⟩ := run_mediated (w := v) wire stream lawful state
    rw [ran] at log
    have begun : v.log = [.request stream.call.asking.code.discriminant
        (wire.encode stream.call.asking.ty stream.call.asking.payload)] := by
      show w.log ++ [_] = _
      rw [fresh]
      rfl
    rw [begun] at log
    exact .inr ⟨whole, replies, ⟨replied.written, replied.uncalled, replied.unasked⟩, log⟩

theorem callsServed_map (calls : List ServerCall) : callsServed (calls.map .called) = calls := by
  induction calls with
  | nil => rfl
  | cons call calls ih => exact congrArg (call :: ·) ih

theorem answersGiven_map (calls : List ServerCall) : answersGiven (calls.map .called) = [] := by
  induction calls with
  | nil => rfl
  | cons call calls ih => exact ih

theorem written_map (calls : List ServerCall) :
    (stream.far wire).written (calls.map .called) = [] := by
  refine List.flatMap_eq_nil_iff.mpr fun event mem => ?_
  obtain ⟨call, -, rfl⟩ := List.mem_map.mp mem
  rfl

/-- All that the manager can come to on the stream of a call. -/
theorem served (lawful : wire.RoundTrips stream.call.asking.ty stream.call.asking.payload)
    {w : Server.Peer σ τ} (fresh : w.log = []) (state : w.state = ⟨stream.state, stream.policy⟩)
    (arrives : Framing.Arrives (stream.call.requestFrame wire) w.recv.bytes) :
    Framing.Served (stream.far wire) callsServed (stream.call.requestFrame wire)
      (some (stream.response wire)) stream.calls
      (w.send.outcome w.send.attempts (stream.response wire) = none) w := by
  have loop : (stream.far wire).act = stream.gate.loop wire stream.handler := rfl
  rcases log_cases lawful fresh state arrives with
    ⟨other, log⟩ | ⟨whole, replies, replied, log⟩
  · refine .idle other ?_ ?_
    · rw [loop, log]
      rfl
    · rw [Party.output, loop, log]
      rfl
  · have called : callsServed ((stream.gate.loop wire stream.handler).run w).2.log =
        stream.calls := by
      rw [log]
      show callsServed (stream.calls.map .called ++ replies) = _
      rw [callsServed_append, callsServed_map, replied.uncalled, List.append_nil]
    have output : (stream.far wire).output w = (stream.far wire).written replies := by
      rw [Party.output, loop, log]
      show (stream.far wire).written (stream.calls.map .called ++ replies) = _
      rw [Party.written_append, written_map]
      rfl
    rcases replied.written with ⟨taken, written⟩ | ⟨lost, rfl⟩
    · refine .answered whole called (output.trans written) ?_
      intro response same
      rw [← Option.mem_some.mp same]
      exact w.send.fits _ _ taken
    · exact .lost whole called output lost

end MediatedStream

/-- What a caller, and whoever set the policy, may rely on. -/
structure Mediated (wire : Wire) (stream : MediatedStream σ τ)
    (now : Duplex (Option IoError) Empty ClientEvent IoError (State σ τ) ServerEvent IoError) :
    Prop where
  faithful : Faithful stream.calls
    (callsServed ((stream.gate.loop wire stream.handler).run now.far).2.log)
    ((stream.call.act wire).run now.near).1
    (ended (stream.counterpart.returned stream.answer)) True
    (HasRead ((stream.call.act wire).run now.near).2.log) (stream.Through wire now)
  asked : answersGiven ((stream.gate.loop wire stream.handler).run now.far).2.log <+:
    [(stream.call.service, stream.verdict)]
  permitted : callsServed ((stream.gate.loop wire stream.handler).run now.far).2.log ≠ [] →
    answersGiven ((stream.gate.loop wire stream.handler).run now.far).2.log =
      [(stream.call.service, .ok ())]

/-- Whatever else the connection carries, the policy is asked once about each call, by the
service it is for, and the handler method of the same name is called only if it said yes; the
caller gets the handler's answer, or that it was denied. -/
theorem mediated_fidelity (wire : Wire) (streams : ι → MediatedStream σ τ)
    (now : ι → Duplex (Option IoError) Empty ClientEvent IoError (State σ τ) ServerEvent IoError)
    (reaches : Duplex.ReachableAll (fun i => (streams i).near wire) (fun i => (streams i).far wire)
      (fun i => (streams i).start) now) (i : ι) (lawful : (streams i).Lawful wire) :
    Mediated wire (streams i) (now i) := by
  have reachable := reaches.stream i
  have delivered := reachable.delivered rfl rfl
  obtain ⟨nearFrame, farFrame⟩ := reachable.frame
  have freshNear : (now i).near.log = [] := by rw [nearFrame]; rfl
  have freshFar : (now i).far.log = [] := by rw [farFrame]; rfl
  have state : (now i).far.state = ⟨(streams i).state, (streams i).policy⟩ := by rw [farFrame]; rfl
  have asked := (streams i).call.asked wire (streams i).gate.peerName freshNear
  have decodes : (streams i).call.concluding wire (streams i).counterpart
      ((streams i).response wire) =
        some (ended ((streams i).counterpart.returned (streams i).answer)) := by
    simp only [Client.ClientCall.concluding, lawful.answer]
  have faithful := Framing.faithful_of_asked delivered asked
    (MediatedStream.served lawful.arguments freshFar state) decodes
  have arrives : Framing.Arrives ((streams i).call.requestFrame wire) (now i).far.recv.bytes := by
    have toFar := delivered.toFar
    rcases asked.output_cases with silent | ⟨written, small⟩
    · have silent : ((streams i).near wire).output (now i).near = [] := silent
      rw [silent] at toFar
      exact .inl (List.prefix_nil.mp toFar)
    · have written : ((streams i).near wire).output (now i).near = frame _ := written
      rw [written] at toFar
      exact .inr ⟨toFar, small⟩
  refine ⟨faithful.when ?_, ?_, ?_⟩
  · intro through
    refine ⟨⟨?_, ?_⟩, ?_, through.quiescent⟩
    · rw [nearFrame]
      exact through.opened
    · rw [nearFrame]
      exact through.requested
    · rw [farFrame]
      exact through.answered
  · rcases MediatedStream.log_cases lawful.arguments freshFar state arrives with
      ⟨-, log⟩ | ⟨-, replies, replied, log⟩
    · rw [log]
      exact List.nil_prefix
    · rw [log]
      show ((streams i).call.service, (streams i).verdict) ::
        answersGiven ((streams i).calls.map .called ++ replies) <+: _
      rw [answersGiven_append, MediatedStream.answersGiven_map, replied.unasked]
      exact List.prefix_rfl
  · intro called
    rcases MediatedStream.log_cases lawful.arguments freshFar state arrives with
      ⟨-, log⟩ | ⟨-, replies, replied, log⟩
    · rw [log] at called
      exact absurd rfl called
    · rw [log] at called ⊢
      have made : (streams i).calls ≠ [] := by
        intro none
        apply called
        show callsServed ((streams i).calls.map .called ++ replies) = []
        rw [none]
        exact replied.uncalled
      have yes : (streams i).verdict = .ok () := by
        cases verdict : (streams i).verdict with
        | ok done => rfl
        | error error =>
            apply absurd _ made
            simp only [MediatedStream.calls, verdict]
      show ((streams i).call.service, (streams i).verdict) ::
        answersGiven ((streams i).calls.map .called ++ replies) = _
      rw [answersGiven_append, MediatedStream.answersGiven_map, replied.unasked, yes]
      rfl

/-- A policy that allows nothing. -/
def denyAll : Authorizer Unit where
  authorize _ _ state := (.error ⟨"policy denied operation"⟩, state)

def sampleDenied : MediatedStream Unit Unit where
  call := .insertModel [1, 2, 3]
  handler := ⟨fun _ state => (.error "not supported", state)⟩
  gate := .legacy (.new "agent") denyAll
  state := ()
  policy := ()
  refused := none
  clientSend := .healthy (.simple .invalidInput)
  serverSend := .healthy (.simple .invalidInput)

/-- The request and its answer have arrived. -/
def sampleTurnedDown :
    Duplex (Option IoError) Empty ClientEvent IoError (State Unit Unit) ServerEvent IoError :=
  (sampleDenied.start.deliverFar (sampleDenied.near Encoding.bincode)).deliverNear
    (sampleDenied.far Encoding.bincode)

theorem sampleTurnedDown_reached :
    Duplex.ReachableAll (fun _ : Unit => sampleDenied.near Encoding.bincode)
      (fun _ => sampleDenied.far Encoding.bincode) (fun _ => sampleDenied.start)
      (fun _ => sampleTurnedDown) := by
  have start : Duplex.Delivered (sampleDenied.near Encoding.bincode)
      (sampleDenied.far Encoding.bincode) sampleDenied.start :=
    Duplex.Reachable.delivered .refl rfl rfl
  have asks := start.step_deliverFar rfl
  have answers := (start.step asks).step_deliverNear rfl
  have first : Duplex.StepAny (fun _ : Unit => sampleDenied.near Encoding.bincode)
      (fun _ => sampleDenied.far Encoding.bincode) (fun _ => sampleDenied.start)
      (fun _ => sampleDenied.start.deliverFar (sampleDenied.near Encoding.bincode)) :=
    ⟨(), asks, fun _ other => absurd rfl other⟩
  have second : Duplex.StepAny (fun _ : Unit => sampleDenied.near Encoding.bincode)
      (fun _ => sampleDenied.far Encoding.bincode)
      (fun _ => sampleDenied.start.deliverFar (sampleDenied.near Encoding.bincode))
      (fun _ => sampleTurnedDown) :=
    ⟨(), answers, fun _ other => absurd rfl other⟩
  exact (Relation.ReflTransGen.single first).tail second

theorem mediated_fidelity_sample :
    ((Client.insertModel Encoding.bincode [1, 2, 3]).run sampleTurnedDown.near).1 =
      .error (.failed (Client.otherError "authorization denied")) ∧
    callsServed ((sampleDenied.gate.loop Encoding.bincode sampleDenied.handler).run
      sampleTurnedDown.far).2.log = [] := by
  have lawful : sampleDenied.Lawful Encoding.bincode :=
    ⟨Encoding.bincode_roundTrips rfl _, rfl⟩
  obtain ⟨faithful, -, -⟩ := mediated_fidelity Encoding.bincode (fun _ => sampleDenied) _
    sampleTurnedDown_reached () lawful
  obtain ⟨called, outcome⟩ := faithful.through ⟨rfl, rfl, rfl, ⟨rfl, rfl⟩⟩
  exact ⟨outcome, called⟩

end ReviewProtocol
