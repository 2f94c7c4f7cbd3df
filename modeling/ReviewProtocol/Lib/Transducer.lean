import Mathlib.Data.List.Basic

set_option autoImplicit false

/- A machine that answers one message after another, until a message stops it. What it makes
of a conversation is a function of the conversation, and messages that only get their own
answer can be left out of it. -/

/-- An answer, the state after it, and whether to go on. -/
structure Transducer (S M O ε : Type) where
  step : S → M → O × S × Except ε Unit

namespace Transducer

variable {S M O ε : Type} (machine : Transducer S M O ε)

/-- Every message that was got to with its answer, the last state, and the end. -/
def run : S → List M → List (M × O) × S × Except ε Unit
  | state, [] => ([], state, .ok ())
  | state, message :: rest =>
      match machine.step state message with
      | (output, state', .ok ()) =>
          ((message, output) :: (run state' rest).1, (run state' rest).2)
      | (output, state', .error error) => ([(message, output)], state', .error error)

theorem run_cons_ok {state state' : S} {message : M} {output : O} (rest : List M)
    (goes : machine.step state message = (output, state', .ok ())) :
    machine.run state (message :: rest) =
      ((message, output) :: (machine.run state' rest).1, (machine.run state' rest).2) := by
  simp only [run, goes]

theorem run_cons_error {state state' : S} {message : M} {output : O} {error : ε} (rest : List M)
    (stops : machine.step state message = (output, state', .error error)) :
    machine.run state (message :: rest) = ([(message, output)], state', .error error) := by
  simp only [run, stops]

/-- What was got to is the front of the conversation. -/
theorem run_front (state : S) (messages : List M) :
    (machine.run state messages).1.map Prod.fst <+: messages := by
  induction messages generalizing state with
  | nil => exact List.prefix_rfl
  | cons message rest ih =>
      rcases step : machine.step state message with ⟨output, state', error | ⟨⟨⟩⟩⟩
      · rw [machine.run_cons_error rest step]
        exact List.cons_prefix_cons.mpr ⟨rfl, List.nil_prefix⟩
      · rw [machine.run_cons_ok rest step]
        exact List.cons_prefix_cons.mpr ⟨rfl, ih state'⟩

/-- Each answer is what the machine gave to its message in some state. -/
theorem run_answers {state : S} {messages : List M} {answered : M × O}
    (mem : answered ∈ (machine.run state messages).1) :
    answered.1 ∈ messages ∧ ∃ before, (machine.step before answered.1).1 = answered.2 := by
  induction messages generalizing state with
  | nil => cases mem
  | cons message rest ih =>
      rcases step : machine.step state message with ⟨output, state', error | ⟨⟨⟩⟩⟩
      · rw [machine.run_cons_error rest step, List.mem_singleton] at mem
        subst mem
        exact ⟨List.mem_cons_self, state, congrArg Prod.fst step⟩
      · rw [machine.run_cons_ok rest step] at mem
        rcases List.mem_cons.mp mem with rfl | mem
        · exact ⟨List.mem_cons_self, state, congrArg Prod.fst step⟩
        · obtain ⟨later, before, given⟩ := ih mem
          exact ⟨List.mem_cons_of_mem _ later, before, given⟩

/-- The message gets an answer and nothing else comes of it. -/
def Inert (message : M) : Prop := ∀ state, (machine.step state message).2 = (state, .ok ())

/-- Inert messages may be left out: the others are answered as before. -/
theorem run_filter (kept : M → Bool) (messages : List M)
    (inert : ∀ message ∈ messages, kept message = false → machine.Inert message) (state : S) :
    machine.run state (messages.filter kept) =
      ((machine.run state messages).1.filter (fun answered => kept answered.1),
        (machine.run state messages).2) := by
  induction messages generalizing state with
  | nil => rfl
  | cons message rest ih =>
      have later := ih fun other mem => inert other (List.mem_cons_of_mem message mem)
      rcases step : machine.step state message with ⟨output, state', error | ⟨⟨⟩⟩⟩
      · by_cases keeps : kept message = true
        · rw [List.filter_cons_of_pos keeps, machine.run_cons_error _ step,
            machine.run_cons_error rest step]
          simp only [List.filter_cons, keeps, List.filter_nil, if_true]
        · have goes := inert message List.mem_cons_self (Bool.eq_false_iff.mpr keeps) state
          rw [step] at goes
          cases goes
      · by_cases keeps : kept message = true
        · rw [List.filter_cons_of_pos keeps, machine.run_cons_ok _ step,
            machine.run_cons_ok rest step, later]
          simp only [List.filter_cons, keeps, if_true]
        · have stays := inert message List.mem_cons_self (Bool.eq_false_iff.mpr keeps) state
          rw [step] at stays
          cases stays
          rw [List.filter_cons_of_neg keeps, machine.run_cons_ok rest step, later]
          simp only [List.filter_cons, keeps, Bool.false_eq_true, if_false]

/-- Two conversations that agree on all but inert messages. -/
theorem run_agree (kept : M → Bool) {first second : List M}
    (inert : ∀ message, message ∈ first ∨ message ∈ second → kept message = false →
      machine.Inert message) (same : first.filter kept = second.filter kept) (state : S) :
    (machine.run state first).2 = (machine.run state second).2 ∧
      (machine.run state first).1.filter (fun answered => kept answered.1) =
        (machine.run state second).1.filter fun answered => kept answered.1 := by
  have left := machine.run_filter kept first (fun message mem => inert message (.inl mem)) state
  have right := machine.run_filter kept second (fun message mem => inert message (.inr mem)) state
  rw [same, right] at left
  exact ⟨(congrArg Prod.snd left).symm, (congrArg Prod.fst left).symm⟩

end Transducer
