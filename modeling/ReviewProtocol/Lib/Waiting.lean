import ReviewProtocol.Lib.Serve

set_option autoImplicit false

/- What an action waits for: rules that follow its code, down to the reads. -/
namespace Framing

namespace Act

variable {S I E X ε α β A : Type} {idle : Endpoint S I E X → Prop}

/-- The action waits only where it is left in such a state. -/
def Awaits (idle : Endpoint S I E X → Prop) (act : Act S I E X ε α) : Prop :=
  ∀ w w', act.run w = (.error .pending, w') → idle w'

theorem awaits_pure (value : α) : Awaits idle (pure value : Act S I E X ε α) := by
  intro w w' ran
  cases ran

theorem awaits_fail (error : ε) : Awaits idle (fail error : Act S I E X ε α) := by
  intro w w' ran
  cases ran

theorem awaits_emit (event : E) : Awaits idle (emit event : Act S I E X ε Unit) := by
  intro w w' ran
  cases ran

theorem awaits_update (change : S → α × S) : Awaits idle (update change : Act S I E X ε α) := by
  intro w w' ran
  cases ran

theorem awaits_orFail {Y : Type} (wrap : Y → ε) (result : Except Y α) :
    Awaits idle (orFail wrap result : Act S I E X ε α) := by
  cases result with
  | ok value => exact awaits_pure value
  | error error => exact awaits_fail _

theorem awaits_send (body : Bytes) (event : E) :
    Awaits idle (send body event : Act S I E X ε _) := by
  intro w w' ran
  rcases run_send_cases (ε := ε) body event w with ⟨-, sent⟩ | ⟨error, -, lost⟩
  · rw [sent] at ran
    cases ran
  · rw [lost] at ran
    cases ran

theorem awaits_take (use : I → α × Option I) (dry : ∀ w, w.input = [] → idle w) :
    Awaits idle (take use : Act S I E X ε α) := by
  intro w w' ran
  cases empty : w.input with
  | nil =>
      simp only [take, empty, Prod.mk.injEq, true_and] at ran
      rw [← ran]
      exact dry w empty
  | cons next rest =>
      simp only [take, empty, Prod.mk.injEq, reduceCtorEq, false_and] at ran

section stream

variable (unread : ∀ w, w.recv.Waiting → idle w)

include unread

theorem awaits_recv : Awaits idle (recv : Act S I E X ε _) := by
  intro w w' ran
  rcases run_recv_cases (ε := ε) w with
    ⟨body, rest, -, -, read⟩ | ⟨error, -, read⟩ | ⟨waiting, read⟩
  · rw [read] at ran
    cases ran
  · rw [read] at ran
    cases ran
  · rw [read] at ran
    cases ran
    exact unread _ waiting

theorem awaits_arrival : Awaits idle (arrival : Act S I E X ε Unit) := by
  intro w w' ran
  rcases run_arrival_cases (ε := ε) w with ⟨empty, unfinished, nothing⟩ | something
  · rw [nothing] at ran
    cases ran
    refine unread _ ⟨unfinished, ?_⟩
    rw [empty]
    rfl
  · rw [something] at ran
    cases ran

/-- A read of no more than a length prefix waits with less than a frame at hand. -/
theorem awaits_readExact {count : Nat} (short : count ≤ 4) :
    Awaits idle (readExact count : Act S I E X ε _) := by
  intro w w' ran
  rcases run_readExact_cases (ε := ε) count w with
    ⟨front, rest, -, -, read⟩ | ⟨error, -, -, read⟩ | ⟨unfinished, few, read⟩
  · rw [read] at ran
    cases ran
  · rw [read] at ran
    cases ran
  · rw [read] at ran
    cases ran
    refine unread _ ⟨unfinished, ?_⟩
    cases split : splitFrame w.recv.bytes with
    | none => rfl
    | some parts =>
        have length := splitFrame_length split
        omega

end stream

theorem Awaits.bind {first : Act S I E X ε α} {next : α → Act S I E X ε β}
    (early : Awaits idle first) (late : ∀ value, Awaits idle (next value)) :
    Awaits idle (first >>= next) := by
  intro w w' ran
  rw [run_bind] at ran
  rcases outcome : first.run w with ⟨halt | value, v⟩
  · rw [outcome] at ran
    cases ran
    exact early w _ outcome
  · rw [outcome] at ran
    exact late value v w' ran

theorem Awaits.loop {measure : A → Endpoint S I E X → Nat} {body : A → Act S I E X ε (Turn A α)}
    {decreasing : Decreasing measure body} (rounds : ∀ a, Awaits idle (body a)) (a : A) :
    Awaits idle (loop measure body decreasing a) := by
  intro w
  refine loop_rule decreasing (fun _ _ => True)
    (fun outcome => ∀ w', outcome = (.error .pending, w') → idle w') ?_ ?_ ?_ a w trivial
  · intro a v again v' _ _
    trivial
  · intro a v value v' _ _ w' ran
    cases ran
  · intro a v halt v' _ ran w' waits
    cases waits
    exact rounds a v _ ran

end Act

variable {S I E X ε R α : Type} {idle : Endpoint S I E X → Prop}

/-- A dispatch loop waits for the next frame, or where an arm does. -/
theorem Protocol.awaits_serve (protocol : Protocol E X ε R α)
    {arms : R → Act S I E X ε (Act.Turn Unit α)} (unread : ∀ w, w.recv.Waiting → idle w)
    (served : ∀ request, Act.Awaits idle (arms request)) :
    Act.Awaits idle (protocol.serve arms) := by
  have finishes (result : Except ε α) : Act.Awaits idle (finish result : Act S I E X ε _) := by
    cases result with
    | ok value => exact Act.awaits_pure _
    | error error => exact Act.awaits_fail _
  refine Act.Awaits.loop (fun _ => ?_) ()
  refine (Act.awaits_recv unread).bind fun read => ?_
  cases read with
  | error error => exact finishes _
  | ok body =>
      dsimp only
      cases protocol.parse body with
      | error error => exact finishes _
      | ok request => exact (Act.awaits_emit _).bind fun _ => served request

end Framing
