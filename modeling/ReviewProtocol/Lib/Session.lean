import ReviewProtocol.Lib.Serve

set_option autoImplicit false

/- A loop may leave requests to its caller. A caller that serves them and calls the loop
again makes one loop of the two. -/
namespace Framing.Protocol

open Act (Turn)

variable {S I E X ε R : Type} (protocol : Protocol E X ε R (Option R))

/-- The end of a stream leaves nothing to the caller. -/
def Quits : Prop := ∀ error request, protocol.ended error ≠ .ok (some request)

/-- A loop that leaves a request has read it. -/
theorem serve_shortens (quits : protocol.Quits)
    (arms : R → Act S I E X ε (Turn Unit (Option R))) (w : Endpoint S I E X) :
    ∀ left, ((protocol.serve arms).run w).1 = .ok (some left) →
      ((protocol.serve arms).run w).2.recv.bytes.length < w.recv.bytes.length := by
  have armed (v : Endpoint S I E X) (body rest : Bytes) (request : R)
      (bytes : v.recv.bytes = frame body ++ rest) :
      ((arms request).run (protocol.atRequest v rest request)).2.recv.bytes.length + 4 ≤
        v.recv.bytes.length := by
    have shrunk := ((arms request).progress (protocol.atRequest v rest request)).bytes_le
    rw [bytes, List.length_append, length_frame]
    dsimp only [atRequest] at shrunk ⊢
    omega
  apply protocol.serve_rule (fun v => v.recv.bytes.length ≤ w.recv.bytes.length)
    fun outcome => ∀ left, outcome.1 = .ok (some left) →
      outcome.2.recv.bytes.length < w.recv.bytes.length
  · intro v body rest request v' below bytes _ ran
    have arm := armed v body rest request bytes
    rw [ran] at arm
    dsimp only at arm
    omega
  · intro v body rest request value v' below bytes _ ran left _
    have arm := armed v body rest request bytes
    rw [ran] at arm
    dsimp only at arm ⊢
    omega
  · intro v body rest request halt v' _ _ _ _ left handed
    cases handed
  · intro v error rest _ _ left handed
    unfold stopped at handed
    cases finished : protocol.ended error with
    | ok value =>
        rw [finished] at handed
        cases handed
        exact absurd finished (quits error left)
    | error error =>
        rw [finished] at handed
        cases handed
  · intro v _ _ left handed
    cases handed
  · show w.recv.bytes.length ≤ w.recv.bytes.length
    omega

/-- One call of the loop, and what its caller does about a request left to it. -/
def turn (arms : R → Act S I E X ε (Turn Unit (Option R))) (caller : R → Act S I E X ε Unit)
    (_ : Unit) : Act S I E X ε (Turn Unit Unit) := do
  match ← protocol.serve arms with
  | none => pure (.stop ())
  | some left => do
      caller left
      pure (.next ())

theorem turn_decreasing (quits : protocol.Quits)
    (arms : R → Act S I E X ε (Turn Unit (Option R))) (caller : R → Act S I E X ε Unit) :
    Act.Decreasing (fun _ (w : Endpoint S I E X) => w.recv.bytes.length)
      (protocol.turn arms caller) := by
  intro _ w again w' ran
  have shorter := protocol.serve_shortens quits arms w
  simp only [turn, Act.run_bind] at ran
  rcases loop : (protocol.serve arms).run w with ⟨halt | _ | left, v⟩
  · rw [loop] at ran
    cases ran
  · rw [loop] at ran
    cases ran
  · rw [loop] at ran shorter
    have fewer := shorter left rfl
    have served := ((caller left).progress v).bytes_le
    simp only [Act.andThen_ok, Act.run_bind] at ran
    rcases outcome : (caller left).run v with ⟨halt | ⟨⟩, v'⟩
    · rw [outcome] at ran
      cases ran
    · rw [outcome] at ran served
      cases ran
      dsimp only at fewer served ⊢
      omega

/-- The loop, called until it leaves nothing. -/
def session (quits : protocol.Quits) (arms : R → Act S I E X ε (Turn Unit (Option R)))
    (caller : R → Act S I E X ε Unit) : Act S I E X ε Unit :=
  Act.loop (fun _ w => w.recv.bytes.length) (protocol.turn arms caller)
    (protocol.turn_decreasing quits arms caller) ()

/-- The same frames for a loop that leaves nothing to anyone. -/
def entire : Protocol E X ε R Unit where
  parse := protocol.parse
  event := protocol.event
  ended error := (protocol.ended error).map fun _ => ()

/-- The arms with the caller's service in the place of a request left to it. -/
def attended (arms : R → Act S I E X ε (Turn Unit (Option R))) (caller : R → Act S I E X ε Unit)
    (request : R) : Act S I E X ε (Turn Unit Unit) := do
  match ← arms request with
  | .next () => pure (.next ())
  | .stop none => pure (.stop ())
  | .stop (some left) => do
      caller left
      pure (.next ())

section session

variable (quits : protocol.Quits) (arms : R → Act S I E X ε (Turn Unit (Option R)))
  (caller : R → Act S I E X ε Unit)

/-- The session after a call of its loop. -/
def reenter : Except (Halt ε) (Option R) × Endpoint S I E X →
    Except (Halt ε) Unit × Endpoint S I E X
  | (.error halt, w) => (.error halt, w)
  | (.ok none, w) => (.ok (), w)
  | (.ok (some left), w) =>
      Act.andThen ((caller left).run w) fun _ => protocol.session quits arms caller

/-- A session by the first call of its loop. -/
theorem run_session (w : Endpoint S I E X) :
    (protocol.session quits arms caller).run w =
      protocol.reenter quits arms caller ((protocol.serve arms).run w) := by
  rw [session, Act.run_loop]
  simp only [turn, Act.run_bind]
  rcases (protocol.serve arms).run w with ⟨halt | _ | left, w'⟩
  · rfl
  · rfl
  · simp only [Act.andThen_ok, Act.run_bind, reenter]
    rcases (caller left).run w' with ⟨halt | ⟨⟩, v⟩
    · rfl
    · rfl

/-- Where no arm ends the loop, nothing is left to the caller. -/
theorem left_at_end (w : Endpoint S I E X) (rest : Bytes) (error : X) :
    protocol.reenter quits arms caller (stopped w rest (protocol.ended error)) =
      stopped w rest (protocol.entire.ended error) := by
  unfold stopped entire
  cases finished : protocol.ended error with
  | error failure => simp only [reenter, Except.map, finished]
  | ok value =>
      cases value with
      | none => simp only [reenter, Except.map, finished]
      | some left => exact absurd finished (quits error left)

/-- A caller that goes back to its loop after each request left to it loses nothing: the
two are one loop. -/
theorem session_eq_serve (w : Endpoint S I E X) :
    (protocol.session quits arms caller).run w =
      (protocol.entire.serve (attended arms caller)).run w := by
  induction bound : w.recv.bytes.length using Nat.strongRecOn generalizing w with
  | ind size ih =>
    rw [run_session]
    cases split : splitFrame w.recv.bytes with
    | none =>
        cases fin : w.recv.fin with
        | none =>
            rw [protocol.serve_waiting arms ⟨fin, split⟩,
              protocol.entire.serve_waiting (attended arms caller) ⟨fin, split⟩]
            rfl
        | some error =>
            rw [protocol.serve_end arms split fin,
              protocol.entire.serve_end (attended arms caller) split fin]
            exact protocol.left_at_end quits arms caller w _ error
    | some parts =>
        obtain ⟨body, rest⟩ := parts
        obtain ⟨bytes, fits⟩ := splitFrame_some split
        cases parsed : protocol.parse body with
        | error error =>
            rw [protocol.serve_refused arms bytes fits parsed,
              protocol.entire.serve_refused (attended arms caller) bytes fits parsed]
            exact protocol.left_at_end quits arms caller w _ error
        | ok request =>
            rw [protocol.serve_request arms bytes fits parsed,
              protocol.entire.serve_request (attended arms caller) bytes fits parsed]
            have same : protocol.entire.atRequest w rest request =
              protocol.atRequest w rest request := rfl
            have shrunk := ((arms request).progress (protocol.atRequest w rest request)).bytes_le
            have fewer : (protocol.atRequest w rest request).recv.bytes.length < size := by
              rw [← bound, bytes, List.length_append, length_frame]
              dsimp only [atRequest]
              omega
            rw [same]
            simp only [attended, Act.run_bind]
            rcases arm : (arms request).run (protocol.atRequest w rest request) with
              ⟨halt | ⟨⟨⟩⟩ | _ | left, w'⟩
            · rfl
            · -- The loop goes round by itself.
              rw [arm] at shrunk
              dsimp only at shrunk
              have again := ih w'.recv.bytes.length (by omega) w' rfl
              rw [run_session] at again
              exact again
            · rfl
            · -- The caller serves the request, and the session goes on from there.
              rw [arm] at shrunk
              have served := ((caller left).progress w').bytes_le
              simp only [resume, reenter, Act.andThen_ok, Act.run_bind]
              rcases service : (caller left).run w' with ⟨halt | ⟨⟩, v⟩
              · rfl
              · rw [service] at served
                dsimp only at shrunk served
                exact ih v.recv.bytes.length (by omega) v rfl

end session

end Framing.Protocol
