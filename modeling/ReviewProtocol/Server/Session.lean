import ReviewProtocol.Lib.Session
import ReviewProtocol.Server.Gate
import ReviewProtocol.Encoding

set_option autoImplicit false

/- The manager's loops give back the requests they have no arm for. A caller that serves
these and calls its loop again serves the whole stream. -/
namespace ReviewProtocol.Server

open Framing (Bytes Act Endpoint Protocol RecvStream Halt frame splitFrame)
open Framing.Act (Turn)

variable {σ τ : Type}

theorem serverProtocol_quits (wire : Wire) : (serverProtocol wire).Quits := by
  intro error request handed
  simp only [serverProtocol] at handed
  by_cases eof : error.kind = .unexpectedEof
  · rw [if_pos eof] at handed
    cases handed
  · rw [if_neg eof] at handed
    cases handed

/-- Either loop, and a caller that serves what is handed back to it. -/
def Gate.session (wire : Wire) (handler : Handler σ) (gate : Gate τ)
    (caller : UInt32 × Bytes → ServerAct σ τ Unit) : ServerAct σ τ Unit :=
  (serverProtocol wire).session (serverProtocol_quits wire) (gate.arms wire handler) caller

/-- One loop over all of the stream, with the caller's service among its arms. -/
def Gate.whole (wire : Wire) (handler : Handler σ) (gate : Gate τ)
    (caller : UInt32 × Bytes → ServerAct σ τ Unit) : ServerAct σ τ Unit :=
  (serverProtocol wire).entire.serve (Protocol.attended (gate.arms wire handler) caller)

/-- A request and what its arm logged. -/
abbrev Served := Protocol.Exchange (UInt32 × Bytes) ServerEvent

/-- A request was served, and how: by the handler method it names, or by the caller. -/
inductive Attended (wire : Wire) (gate : Gate τ)
    (caller : UInt32 × Bytes → ServerAct σ τ Unit) : Served → Prop where
  | byHandler {code body service call result}
      (named : fromServerRequestCode (.fromPrimitive code) = some service)
      (planned : planOf wire gate.peerName code body = .unary call) :
      Attended wire gate caller ⟨(code, body),
        [.authorized service (.ok ()), .called call, .replied call.ret result]⟩
  | byCaller {code body service added v v'}
      (named : fromServerRequestCode (.fromPrimitive code) = some service)
      (left : planOf wire gate.peerName code body = .handBack)
      (served : (caller (code, body)).run v = (.ok (), v')) (log : v'.log = v.log ++ added) :
      Attended wire gate caller ⟨(code, body), .authorized service (.ok ()) :: added⟩

section arms

variable (wire : Wire) (handler : Handler σ) (gate : Gate τ) (code : UInt32) (body : Bytes)

/-- What becomes of a request in the loop itself. -/
inductive Disposed (w : Peer σ τ) :
    Except (Halt IoError) (Turn Unit HandedBack) × Peer σ τ → Prop where
  | answered {service call result w'}
      (named : fromServerRequestCode (.fromPrimitive code) = some service)
      (planned : planOf wire gate.peerName code body = .unary call)
      (log : w'.log = w.log ++
        [.authorized service (.ok ()), .called call, .replied call.ret result])
      (recv : w'.recv = w.recv) : Disposed w (.ok (.next ()), w')
  | left {service w'} (named : fromServerRequestCode (.fromPrimitive code) = some service)
      (planned : planOf wire gate.peerName code body = .handBack)
      (log : w'.log = w.log ++ [.authorized service (.ok ())]) (recv : w'.recv = w.recv) :
      Disposed w (.ok (.stop (some (code, body))), w')
  | refused {error w' added} (log : w'.log = w.log ++ added) (recv : w'.recv = w.recv) :
      Disposed w (.error (.failed error), w')

theorem Refuses.failed {α : Type} {outcome : Nat → Bytes → Option IoError} {text : String}
    {error : IoError} {logged : List ServerEvent} {halt : Halt IoError}
    (refuses : Refuses wire outcome text error logged (.error halt : Except _ α)) :
    ∃ failure, halt = .failed failure := by
  rcases refuses with ⟨-, same⟩ | ⟨-, attempt, failure, -, same⟩
  · cases same
    exact ⟨error, rfl⟩
  · cases same
    exact ⟨failure, rfl⟩

/-- A request without an arm is refused. -/
theorem refuseUnknown_disposed {w v : Peer σ τ} {logged : List ServerEvent}
    (asked : v.log = w.log ++ logged) (recv : v.recv = w.recv) :
    Disposed wire gate code body w ((refuseUnknown wire).run v) := by
  obtain ⟨added, result, v', ran, acts, refuses⟩ := refuse_acts (α := Turn Unit HandedBack) wire
    gate.ask v "unknown request code" unknownRequestCode
  obtain ⟨failure, rfl⟩ := (refuses Unit).failed wire
  have stops : (refuseUnknown wire).run v = (.error (.failed failure), v') := ran
  have log : v'.log = w.log ++ (logged ++ added) := by
    rw [acts.log, asked, List.append_assoc]
  rw [stops]
  exact .refused log (acts.recv.trans recv)

theorem Plan.perform_disposed {service : ServiceId} {w v : Peer σ τ}
    (named : fromServerRequestCode (.fromPrimitive code) = some service)
    (asked : v.log = w.log ++ [.authorized service (.ok ())]) (recv : v.recv = w.recv) :
    Disposed wire gate code body w
      (((planOf wire gate.peerName code body).perform wire handler code body).run v) := by
  cases planned : planOf wire gate.peerName code body with
  | undecodable error => exact .refused asked recv
  | handBack => exact .left named planned asked recv
  | unknown => exact refuseUnknown_disposed wire gate code body asked recv
  | unary call =>
      simp only [Plan.perform, Handler.invoke, Act.run_bind, Act.emit, Act.update, Act.andThen_ok]
      generalize handler.call call v.state.handler = answer
      rcases run_respond wire call.ret answer.1
        { v with state.handler := answer.2, log := v.log ++ [.called call] } with
        ⟨-, sent⟩ | ⟨failure, -, sent⟩
      · rw [sent]
        have log : v.log ++ [.called call] ++ [.replied call.ret answer.1] = w.log ++
            [.authorized service (.ok ()), .called call, .replied call.ret answer.1] := by
          simp only [asked, List.append_assoc, List.cons_append, List.nil_append]
        exact .answered named planned log recv
      · rw [sent]
        have log : v.log ++ [.called call] =
            w.log ++ [.authorized service (.ok ()), .called call] := by
          rw [asked, List.append_assoc]
          rfl
        exact .refused log recv

theorem Gate.arms_disposed (w : Peer σ τ) :
    Disposed wire gate code body w ((gate.arms wire handler (code, body)).run w) := by
  unfold Gate.arms
  simp only [handleAuthorizedArms_eq]
  cases named : fromServerRequestCode (.fromPrimitive code) with
  | none =>
      have planned := fits_planOf wire gate.peerName code body
      rw [fromServerRequestCode_none.mp named] at planned
      have unknown : planOf wire gate.peerName code body = .unknown := by
        cases plan : planOf wire gate.peerName code body with
        | undecodable error =>
            rw [plan] at planned
            exact absurd rfl planned
        | unary call =>
            rw [plan] at planned
            exact absurd rfl planned.1
        | handBack =>
            rw [plan] at planned
            exact absurd rfl planned
        | unknown => rfl
      rw [unknown]
      exact refuseUnknown_disposed wire gate code body (List.append_nil _).symm rfl
  | some service =>
      dsimp only
      rw [Act.run_bind]
      rcases checkAuthorization_acts wire gate.ask w service with
        ⟨v, asked, acts⟩ | ⟨error, added, result, v, asked, acts, refuses⟩
      · rw [asked, Act.andThen_ok]
        exact Plan.perform_disposed wire handler gate code body named acts.log acts.recv
      · obtain ⟨failure, rfl⟩ := (refuses Unit).failed wire
        rw [asked, Act.andThen_error]
        exact .refused acts.log acts.recv

end arms

section session

variable {wire : Wire} {handler : Handler σ} {gate : Gate τ}
  {caller : UInt32 × Bytes → ServerAct σ τ Unit}

variable (wire handler gate) in
/-- A request of the whole loop: it is served and the loop goes on, or the loop fails. -/
theorem Gate.attends (silent : ∀ request w, ((caller request).run w).2.recv = w.recv)
    (request : UInt32 × Bytes) (w : Peer σ τ) :
    (∃ logged v, (Protocol.attended (gate.arms wire handler) caller request).run w =
        (.ok (.next ()), v) ∧ v.recv = w.recv ∧ v.log = w.log ++ logged ∧
      Attended wire gate caller ⟨request, logged⟩) ∨
    ∃ halt logged v, (Protocol.attended (gate.arms wire handler) caller request).run w =
        (.error halt, v) ∧ v.recv = w.recv ∧ v.log = w.log ++ logged ∧
      (halt = .pending → ∃ request u, ((caller request).run u).1 = .error .pending) := by
  obtain ⟨code, body⟩ := request
  simp only [Protocol.attended, Act.run_bind]
  have disposed := gate.arms_disposed wire handler code body w
  generalize (gate.arms wire handler (code, body)).run w = outcome at disposed ⊢
  cases disposed with
  | answered named planned log recv =>
      exact .inl ⟨_, _, rfl, recv, log, .byHandler named planned⟩
  | refused log recv => exact .inr ⟨_, _, _, rfl, recv, log, fun same => by cases same⟩
  | @left service v named planned log recv =>
      have unread := silent (code, body) v
      obtain ⟨added, more⟩ := ((caller (code, body)).progress v).log
      simp only [Act.andThen_ok, Act.run_bind]
      rcases served : (caller (code, body)).run v with ⟨halt | ⟨⟩, v'⟩
      · rw [served] at unread more
        have whole : v'.log = w.log ++ ([.authorized service (.ok ())] ++ added) := by
          rw [← more, log, List.append_assoc]
        refine .inr ⟨halt, _, v', rfl, unread.trans recv, whole, ?_⟩
        rintro rfl
        exact ⟨_, v, congrArg Prod.fst served⟩
      · rw [served] at unread more
        have whole : v'.log = w.log ++ (.authorized service (.ok ()) :: added) := by
          rw [← more, log, List.append_assoc]
          rfl
        exact .inl ⟨_, v', rfl, unread.trans recv, whole, .byCaller named planned served more.symm⟩

/-- All of a stream that a session has dealt with, request by request. -/
structure Accounted (wire : Wire) (gate : Gate τ) (caller : UInt32 × Bytes → ServerAct σ τ Unit)
    (start : Peer σ τ) (exchanges : List Served) (tail : Bytes)
    (run : Except (Halt IoError) Unit × Peer σ τ) : Prop where
  log : run.2.log = start.log ++ exchanges.flatMap (Protocol.Exchange.events (serverProtocol wire))
  bytes : start.recv.bytes = exchanges.flatMap
    (fun exchange => frame (Wire.requestFrame exchange.request.1 exchange.request.2)) ++ tail
  attended : ∀ exchange ∈ exchanges.dropLast, Attended wire gate caller exchange
  finished : run.1 = .ok () → (∀ exchange ∈ exchanges, Attended wire gate caller exchange) ∧
    ∃ error, error.kind = .unexpectedEof ∧
      (start.recv.fin = some error ∧ splitFrame tail = none ∨
        ∃ body rest, tail = frame body ++ rest ∧ wire.splitRequest body = .error error)
  waiting : run.1 = .error .pending → (∀ request w, ((caller request).run w).1 ≠ .error .pending) →
    (∀ exchange ∈ exchanges, Attended wire gate caller exchange) ∧
      start.recv.fin = none ∧ splitFrame tail = none

/-- The loop ends before it has read a request. -/
theorem Accounted.ends {start : Peer σ τ} {rest : Bytes} {error : IoError}
    (ends : start.recv.fin = some error ∧ splitFrame start.recv.bytes = none ∨
      ∃ body rest, start.recv.bytes = frame body ++ rest ∧ wire.splitRequest body = .error error) :
    Accounted wire gate caller start [] start.recv.bytes
      (Protocol.stopped start rest ((serverProtocol wire).entire.ended error)) := by
  have outcome : (serverProtocol wire).entire.ended error =
      if error.kind = .unexpectedEof then .ok () else .error error := by
    simp only [Protocol.entire, serverProtocol]
    by_cases eof : error.kind = .unexpectedEof
    · rw [if_pos eof, if_pos eof]
      rfl
    · rw [if_neg eof, if_neg eof]
      rfl
  have nothing : ∀ exchange ∈ ([] : List Served), Attended wire gate caller exchange :=
    fun _ mem => (List.not_mem_nil mem).elim
  refine ⟨(List.append_nil _).symm, rfl, nothing, ?_, ?_⟩
  · intro well
    rw [outcome] at well
    by_cases eof : error.kind = .unexpectedEof
    · exact ⟨nothing, error, eof, ends⟩
    · rw [if_neg eof] at well
      cases well
  · intro waits
    rw [outcome] at waits
    by_cases eof : error.kind = .unexpectedEof
    · rw [if_pos eof] at waits
      cases waits
    · rw [if_neg eof] at waits
      cases waits

/-- A request that was served, in front of what was done with the rest of the stream. -/
theorem Accounted.cons {start v : Peer σ τ} {code : UInt32} {payload : Bytes}
    {logged : List ServerEvent} {exchanges : List Served} {tail : Bytes}
    {run : Except (Halt IoError) Unit × Peer σ τ}
    (bytes : start.recv.bytes = frame (Wire.requestFrame code payload) ++ v.recv.bytes)
    (fin : v.recv.fin = start.recv.fin)
    (log : v.log = start.log ++ .request code payload :: logged)
    (served : Attended wire gate caller ⟨(code, payload), logged⟩)
    (later : Accounted wire gate caller v exchanges tail run) :
    Accounted wire gate caller start (⟨(code, payload), logged⟩ :: exchanges) tail run := by
  have all (rest : ∀ exchange ∈ exchanges, Attended wire gate caller exchange) :
      ∀ exchange ∈ (⟨(code, payload), logged⟩ : Served) :: exchanges,
        Attended wire gate caller exchange := by
    intro exchange mem
    rcases List.mem_cons.mp mem with rfl | mem
    · exact served
    · exact rest exchange mem
  refine ⟨?_, ?_, ?_, ?_, ?_⟩
  · rw [later.log, log, List.flatMap_cons, List.append_assoc]
    rfl
  · rw [bytes, later.bytes, List.flatMap_cons, List.append_assoc]
  · cases exchanges with
    | nil => exact fun _ mem => (List.not_mem_nil mem).elim
    | cons next rest =>
        intro exchange mem
        rw [List.dropLast_cons_cons] at mem
        rcases List.mem_cons.mp mem with rfl | mem
        · exact served
        · exact later.attended exchange mem
  · intro well
    obtain ⟨rest, ends⟩ := later.finished well
    rw [← fin]
    exact ⟨all rest, ends⟩
  · intro waits settles
    obtain ⟨rest, idle⟩ := later.waiting waits settles
    rw [← fin]
    exact ⟨all rest, idle⟩

/-- A caller that goes back to its loop after each request that is handed back to it makes
one loop of the two. No request of the stream is lost, served twice or taken out of order:
each is answered by the one handler method it names or served once by the caller, after the
authorizer's yes, and only the last may fail. -/
theorem session_complete (wire : Wire) (handler : Handler σ) (gate : Gate τ)
    (caller : UInt32 × Bytes → ServerAct σ τ Unit)
    (silent : ∀ request w, ((caller request).run w).2.recv = w.recv) (start : Peer σ τ) :
    (gate.session wire handler caller).run start = (gate.whole wire handler caller).run start ∧
    ∃ exchanges tail, Accounted wire gate caller start exchanges tail
      ((gate.session wire handler caller).run start) := by
  have same (w : Peer σ τ) : (gate.session wire handler caller).run w =
      (gate.whole wire handler caller).run w :=
    (serverProtocol wire).session_eq_serve (serverProtocol_quits wire) _ caller w
  refine ⟨same start, ?_⟩
  rw [same start]
  induction bound : start.recv.bytes.length using Nat.strongRecOn generalizing start with
  | ind size ih =>
    unfold Gate.whole at ih ⊢
    cases split : splitFrame start.recv.bytes with
    | none =>
        cases fin : start.recv.fin with
        | none =>
            rw [Protocol.serve_waiting _ _ ⟨fin, split⟩]
            refine ⟨[], start.recv.bytes, (List.append_nil _).symm, rfl, ?_, ?_, ?_⟩
            · exact fun _ mem => (List.not_mem_nil mem).elim
            · intro well
              cases well
            · exact fun _ _ => ⟨fun _ mem => (List.not_mem_nil mem).elim, fin, split⟩
        | some error =>
            rw [Protocol.serve_end _ _ split fin]
            exact ⟨[], start.recv.bytes, .ends (.inl ⟨fin, split⟩)⟩
    | some parts =>
        obtain ⟨frameBody, rest⟩ := parts
        obtain ⟨bytes, fits⟩ := Framing.splitFrame_some split
        cases parsed : wire.splitRequest frameBody with
        | error error =>
            rw [Protocol.serve_refused _ _ bytes fits parsed]
            exact ⟨[], start.recv.bytes, .ends (.inr ⟨frameBody, rest, bytes, parsed⟩)⟩
        | ok request =>
            obtain ⟨code, payload⟩ := request
            obtain rfl := wire.splitRequest_ok parsed
            rw [Protocol.serve_request _ _ bytes fits parsed]
            rcases gate.attends wire handler silent (code, payload)
              ((serverProtocol wire).entire.atRequest start rest (code, payload)) with
              ⟨logged, v, ran, recv, log, served⟩ | ⟨halt, logged, v, ran, recv, log, waits⟩
            · have unread : v.recv.bytes = rest := congrArg RecvStream.bytes recv
              have ended : v.recv.fin = start.recv.fin := by
                rw [recv]
                rfl
              have fewer : v.recv.bytes.length < size := by
                rw [← bound, bytes, unread, List.length_append, Framing.length_frame]
                omega
              obtain ⟨exchanges, tail, later⟩ := ih v.recv.bytes.length fewer v rfl
              rw [ran]
              refine ⟨⟨(code, payload), logged⟩ :: exchanges, tail, .cons ?_ ?_ ?_ served later⟩
              · rw [bytes, unread]
              · exact ended
              · exact log.trans (List.append_assoc _ _ _)
            · rw [ran]
              refine ⟨[⟨(code, payload), logged⟩], rest, ?_, ?_, ?_, ?_, ?_⟩
              · show v.log = _
                rw [log, List.flatMap_cons, List.flatMap_nil, List.append_nil]
                exact List.append_assoc _ _ _
              · rw [bytes, List.flatMap_cons, List.flatMap_nil, List.append_nil]
              · exact fun _ mem => (List.not_mem_nil mem).elim
              · intro well
                cases well
              · intro pending settles
                cases pending
                obtain ⟨request, u, stuck⟩ := waits rfl
                exact absurd stuck (settles request u)

end session

/-- A manager whose handler knows one model. -/
def modest : Handler Unit where
  call
    | .getModelNames, state => (.ok ["net"], state)
    | _, state => (.error "not supported", state)

def sampleGate : Gate Unit := .legacy (PeerContext.new "agent") noopAuthorizer

/-- A caller that counts no events. -/
def sampleCaller (_ : UInt32 × Bytes) : ServerAct Unit Unit Unit :=
  respond Encoding.bincode .u32 (.ok 0)

/-- A request without an arm, one with an arm, and the end of the stream. -/
def sampleVisit : Peer Unit Unit where
  state := ⟨(), ()⟩
  input := []
  recv := {
    bytes :=
      frame (Wire.requestFrame Server.RequestCode.getMaxEventIdNum.discriminant []) ++
      frame (Wire.requestFrame Server.RequestCode.getModelNames.discriminant [])
    fin := some (.simple .unexpectedEof) }
  send := .healthy (.simple .invalidInput)
  log := []

theorem session_complete_sample :
    ((sampleGate.session Encoding.bincode modest sampleCaller).run sampleVisit).2.log =
      [.request 2 [], .authorized ServiceId.serverEventGetMaxIdNum (.ok ()), .replied .u32 (.ok 0),
        .request 4 [], .authorized ServiceId.serverModelGetNames (.ok ()),
        .called .getModelNames, .replied (.vec .str) (.ok ["net"])] := by
  have silent (request : UInt32 × Bytes) (w : Peer Unit Unit) :
      ((sampleCaller request).run w).2.recv = w.recv := by
    rcases run_respond Encoding.bincode .u32 (.ok 0) w with ⟨-, sent⟩ | ⟨failure, -, sent⟩
    · rw [sampleCaller, sent]
    · rw [sampleCaller, sent]
  obtain ⟨same, exchanges, tail, accounted⟩ := session_complete Encoding.bincode modest sampleGate
    sampleCaller silent sampleVisit
  rw [same]
  rfl

end ReviewProtocol.Server
