import ReviewProtocol.Lib.Serve
import Mathlib.Logic.Relation

set_option autoImplicit false

/- A request may be worded in more than one way. A loop whose arms do not tell two wordings
apart does the same with either, wherever on the stream they are, and so with any number of
requests worded otherwise. -/
namespace Framing

namespace Act

variable {S I E X ε α β A : Type}

/-- What is in the log already does not matter to the action. -/
def Forgetful (act : Act S I E X ε α) : Prop :=
  ∀ w log, ∃ added, (act.run w).2.log = w.log ++ added ∧
    act.run { w with log := log } = ((act.run w).1, { (act.run w).2 with log := log ++ added })

theorem forgetful_pure (value : α) : Forgetful (pure value : Act S I E X ε α) := by
  intro w log
  refine ⟨[], (List.append_nil _).symm, ?_⟩
  rw [List.append_nil]
  rfl

theorem forgetful_fail (error : ε) : Forgetful (fail error : Act S I E X ε α) := by
  intro w log
  refine ⟨[], (List.append_nil _).symm, ?_⟩
  rw [List.append_nil]
  rfl

theorem forgetful_emit (event : E) : Forgetful (emit event : Act S I E X ε Unit) :=
  fun _ _ => ⟨[event], rfl, rfl⟩

theorem forgetful_update (change : S → α × S) : Forgetful (update change : Act S I E X ε α) := by
  intro w log
  refine ⟨[], (List.append_nil _).symm, ?_⟩
  rw [List.append_nil]
  rfl

theorem forgetful_take (use : I → α × Option I) : Forgetful (take use : Act S I E X ε α) := by
  intro w log
  refine ⟨[], ?_, ?_⟩
  · rcases read : w.input with _ | ⟨first, rest⟩ <;> simp only [take, read, List.append_nil]
  · rcases read : w.input with _ | ⟨first, rest⟩ <;> simp only [take, read, List.append_nil]

theorem forgetful_orFail {Y : Type} (wrap : Y → ε) (result : Except Y α) :
    Forgetful (orFail wrap result : Act S I E X ε α) := by
  cases result with
  | ok value => exact forgetful_pure value
  | error error => exact forgetful_fail (wrap error)

theorem forgetful_send (body : Bytes) (event : E) :
    Forgetful (send body event : Act S I E X ε _) := by
  intro w log
  rcases outcome : w.send.sendRaw body with ⟨error | ⟨⟩, stream⟩
  · refine ⟨[], ?_, ?_⟩
    · simp only [send, outcome, List.append_nil]
    · simp only [send, outcome, List.append_nil]
  · refine ⟨[event], ?_, ?_⟩
    · simp only [send, outcome]
    · simp only [send, outcome]

theorem forgetful_recv : Forgetful (recv : Act S I E X ε _) := by
  intro w log
  refine ⟨[], ?_, ?_⟩
  · rcases read : w.recv.recvRaw with ⟨(_ | _) | _, stream⟩ <;>
      simp only [recv, read, List.append_nil]
  · rcases read : w.recv.recvRaw with ⟨(_ | _) | _, stream⟩ <;>
      simp only [recv, read, List.append_nil]

theorem Forgetful.bind {first : Act S I E X ε α} {next : α → Act S I E X ε β}
    (early : Forgetful first) (late : ∀ value, Forgetful (next value)) :
    Forgetful (first >>= next) := by
  intro w log
  obtain ⟨added, grown, same⟩ := early w log
  simp only [run_bind]
  rw [same]
  rcases ran : first.run w with ⟨halt | value, w'⟩
  · rw [ran] at grown
    exact ⟨added, grown, rfl⟩
  · rw [ran] at grown
    obtain ⟨more, grown', same'⟩ := late value w' (log ++ added)
    refine ⟨added ++ more, ?_, ?_⟩
    · rw [andThen_ok, grown', show w'.log = w.log ++ added from grown, List.append_assoc]
    · rw [andThen_ok, andThen_ok, same', List.append_assoc]

theorem Forgetful.loop {measure : A → Endpoint S I E X → Nat} {body : A → Act S I E X ε (Turn A α)}
    {decreasing : Decreasing measure body} (rounds : ∀ a, Forgetful (body a)) (a : A) :
    Forgetful (loop measure body decreasing a) := by
  intro w log
  induction bound : measure a w using Nat.strongRecOn generalizing a w log with
  | ind bound ih =>
      obtain ⟨added, grown, same⟩ := rounds a w log
      rw [run_loop decreasing a w, run_loop decreasing a { w with log := log }, same]
      rcases ran : (body a).run w with ⟨halt | again | value, w'⟩
      · rw [ran] at grown
        exact ⟨added, grown, rfl⟩
      · rw [ran] at grown
        have lower := decreasing a w again w' ran
        obtain ⟨more, grown', same'⟩ := ih (measure again w') (by omega) again w' (log ++ added) rfl
        refine ⟨added ++ more, ?_, ?_⟩
        · dsimp only
          rw [grown', show w'.log = w.log ++ added from grown, List.append_assoc]
        · dsimp only
          rw [same', List.append_assoc]
      · rw [ran] at grown
        exact ⟨added, grown, rfl⟩

end Act

namespace Protocol

open Act (Turn Forgetful Steady)

variable {S I E X ε R α M B : Type} {protocol : Protocol E X ε R α}

theorem forgetful_finish (result : Except ε α) :
    Forgetful (finish result : Act S I E X ε (Turn Unit α)) := by
  cases result with
  | ok value => exact Act.forgetful_pure _
  | error error => exact Act.forgetful_fail error

theorem forgetful_serve {arms : R → Act S I E X ε (Turn Unit α)}
    (served : ∀ request, Forgetful (arms request)) : Forgetful (protocol.serve arms) := by
  apply Forgetful.loop
  intro _
  apply Act.forgetful_recv.bind
  intro read
  cases read with
  | error error => exact forgetful_finish _
  | ok body =>
      dsimp only
      cases protocol.parse body with
      | error error => exact forgetful_finish _
      | ok request => exact (Act.forgetful_emit _).bind fun _ => served request

/-- Two outcomes are one, as far as the reading of their logs tells. -/
structure SameOutcome (blur : E → B) (first second : Except (Halt ε) α × Endpoint S I E X) :
    Prop where
  result : first.1 = second.1
  state : first.2.state = second.2.state
  input : first.2.input = second.2.input
  recv : first.2.recv = second.2.recv
  send : first.2.send = second.2.send
  log : first.2.log.map blur = second.2.log.map blur

theorem SameOutcome.refl (blur : E → B) (outcome : Except (Halt ε) α × Endpoint S I E X) :
    SameOutcome blur outcome outcome :=
  ⟨rfl, rfl, rfl, rfl, rfl, rfl⟩

theorem SameOutcome.trans {blur : E → B}
    {first second third : Except (Halt ε) α × Endpoint S I E X}
    (early : SameOutcome blur first second) (late : SameOutcome blur second third) :
    SameOutcome blur first third :=
  ⟨early.result.trans late.result, early.state.trans late.state, early.input.trans late.input,
    early.recv.trans late.recv, early.send.trans late.send, early.log.trans late.log⟩

/-- One request is worded otherwise: behind anything the loop has served to the last byte, and
in front of anything. -/
inductive Reworded (protocol : Protocol E X ε R α) (arms : R → Act S I E X ε (Turn Unit α))
    (meaning : R → M) : Endpoint S I E X → Endpoint S I E X → Prop where
  | intro {before earlier v body body' request request'} (rest : Bytes) (fin : Option X)
      (unfinished : before.recv.fin = none) (prior : protocol.Reaches arms before earlier v)
      (consumed : v.recv.bytes = []) (fits : body.length < frameLimit)
      (fits' : body'.length < frameLimit) (parsed : protocol.parse body = .ok request)
      (parsed' : protocol.parse body' = .ok request')
      (same : meaning request = meaning request') :
      Reworded protocol arms meaning (before.followed (frame body ++ rest) fin)
        (before.followed (frame body' ++ rest) fin)

section reworded

variable {arms : R → Act S I E X ε (Turn Unit α)} {meaning : R → M}
  {blur : E → B}

/-- The loop in front of either wording. -/
theorem serve_either (served : ∀ request, Forgetful (arms request))
    (deaf : ∀ request request', meaning request = meaning request' → arms request = arms request')
    (blurs : ∀ request request', meaning request = meaning request' →
      blur (protocol.event request) = blur (protocol.event request'))
    {v : Endpoint S I E X} {body body' : Bytes} {request request' : R} (rest : Bytes)
    (fin : Option X) (consumed : v.recv.bytes = []) (fits : body.length < frameLimit)
    (fits' : body'.length < frameLimit) (parsed : protocol.parse body = .ok request)
    (parsed' : protocol.parse body' = .ok request') (same : meaning request = meaning request') :
    SameOutcome blur
      ((protocol.serve arms).run (v.followed (frame body ++ rest) fin))
      ((protocol.serve arms).run (v.followed (frame body' ++ rest) fin)) := by
  have bytes (more : Bytes) : (v.followed more fin).recv.bytes = more := by
    show v.recv.bytes ++ more = more
    rw [consumed, List.nil_append]
  rw [protocol.serve_request arms (bytes _) fits parsed,
    protocol.serve_request arms (bytes _) fits' parsed', ← deaf request request' same]
  have resumes : Forgetful (arms request >>= fun turn => match turn with
      | .next () => protocol.serve arms
      | .stop value => pure value) := by
    apply (served request).bind
    intro turn
    cases turn with
    | next _ => exact forgetful_serve served
    | stop value => exact Act.forgetful_pure value
  have resumed (w : Endpoint S I E X) :
      protocol.resume arms ((arms request).run w) = (arms request >>= fun turn => match turn with
        | .next () => protocol.serve arms
        | .stop value => pure value).run w := by
    rw [Act.run_bind]
    rcases (arms request).run w with ⟨halt | ⟨⟨⟩⟩ | value, w'⟩
    · rfl
    · rfl
    · rfl
  rw [resumed, resumed]
  obtain ⟨added, grown, equal⟩ := resumes
    (protocol.atRequest (v.followed (frame body ++ rest) fin) rest request)
    (v.log ++ [protocol.event request'])
  have other : protocol.atRequest (v.followed (frame body' ++ rest) fin) rest request' =
      { protocol.atRequest (v.followed (frame body ++ rest) fin) rest request with
        log := v.log ++ [protocol.event request'] } := rfl
  rw [other, equal]
  refine ⟨rfl, rfl, rfl, rfl, rfl, ?_⟩
  dsimp only
  rw [grown]
  show List.map blur (v.log ++ [protocol.event request] ++ added) =
    List.map blur (v.log ++ [protocol.event request'] ++ added)
  simp only [List.map_append, List.map_cons, List.map_nil, blurs request request' same]

/-- A loop does the same with any number of requests worded otherwise. -/
theorem serve_reworded (steady : ∀ request, Steady (arms request))
    (served : ∀ request, Forgetful (arms request))
    (deaf : ∀ request request', meaning request = meaning request' → arms request = arms request')
    (blurs : ∀ request request', meaning request = meaning request' →
      blur (protocol.event request) = blur (protocol.event request'))
    {w w' : Endpoint S I E X}
    (rewords : Relation.ReflTransGen (Reworded protocol arms meaning) w w') :
    SameOutcome blur ((protocol.serve arms).run w) ((protocol.serve arms).run w') := by
  induction rewords with
  | refl => exact SameOutcome.refl blur _
  | tail _ step ih =>
      apply ih.trans
      cases step with
      | intro rest fin unfinished prior consumed fits fits' parsed parsed' same =>
          rw [(prior.followed steady unfinished _ fin).run_eq,
            (prior.followed steady unfinished _ fin).run_eq]
          exact serve_either served deaf blurs rest fin consumed fits fits' parsed parsed' same

end reworded

end Protocol

end Framing
