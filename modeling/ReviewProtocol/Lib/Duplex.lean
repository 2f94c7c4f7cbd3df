import Mathlib.Logic.Relation
import ReviewProtocol.Lib.Act

set_option autoImplicit false

/- Two parties at the ends of one stream. Each acts on what has been delivered to it so
far; a delivery brings more of what the other has written, in order and unchanged, and may
bring the end. Every interleaving of the two is a sequence of deliveries, because what an
action did on less input is what it does first on more. -/
namespace Framing

/-- Code at one end, and the frame each entry of its log put on the wire. -/
structure Party (S I E X ε α : Type) where
  act : Act S I E X ε α
  body : E → Option Bytes

variable {S I E X ε α S' E' X' ε' β : Type}

namespace Party

/-- What a log put on the wire. -/
def written (party : Party S I E X ε α) (log : List E) : Bytes :=
  log.flatMap fun event => (party.body event).elim [] frame

theorem written_append (party : Party S I E X ε α) (first second : List E) :
    party.written (first ++ second) = party.written first ++ party.written second :=
  List.flatMap_append

theorem written_prefix (party : Party S I E X ε α) {less more : List E} (longer : less <+: more) :
    party.written less <+: party.written more := by
  obtain ⟨tail, rfl⟩ := longer
  rw [written_append]
  exact List.prefix_append _ _

/-- What the party has written by now. -/
def output (party : Party S I E X ε α) (w : Endpoint S I E X) : Bytes :=
  party.written (party.act.run w).2.log

end Party

/-- More input only adds to the log. -/
theorem Act.log_prefix (act : Act S I E X ε α) {w more : Endpoint S I E X}
    (extended : w.Extends more) : (act.run w).2.log <+: (act.run more).2.log := by
  have agree := act.streams w more extended
  rcases outcome : act.run w with ⟨halt | value, w'⟩
  · rw [outcome] at agree
    cases halt with
    | pending => exact agree
    | failed error =>
        obtain ⟨-, extends'⟩ := agree
        rw [extends'.log]
  · rw [outcome] at agree
    obtain ⟨-, extends'⟩ := agree
    rw [extends'.log]

/-- What is done stays done. -/
theorem Act.run_done (act : Act S I E X ε α) {w more : Endpoint S I E X}
    (extended : w.Extends more) (done : (act.run w).1 ≠ .error .pending) :
    (act.run more).1 = (act.run w).1 ∧ (act.run more).2.log = (act.run w).2.log := by
  have agree := act.streams w more extended
  rcases outcome : act.run w with ⟨halt | value, w'⟩
  · rw [outcome] at agree done
    cases halt with
    | pending => exact absurd rfl done
    | failed error =>
        obtain ⟨same, extends'⟩ := agree
        exact ⟨same, extends'.log⟩
  · rw [outcome] at agree
    obtain ⟨same, extends'⟩ := agree
    exact ⟨same, extends'.log⟩

theorem Party.output_prefix (party : Party S I E X ε α) {w more : Endpoint S I E X}
    (extended : w.Extends more) : party.output w <+: party.output more :=
  party.written_prefix (party.act.log_prefix extended)

/-- The two ends of a stream, each with what has been delivered to it. Only the near end
has local input. -/
structure Duplex (S I E X S' E' X' : Type) where
  near : Endpoint S I E X
  far : Endpoint S' Empty E' X'

namespace Duplex

variable (near : Party S I E X ε α) (far : Party S' Empty E' X' ε' β)

/-- One delivery. -/
inductive Step : Duplex S I E X S' E' X' → Duplex S I E X S' E' X' → Prop where
  /-- More of what the near end wrote, perhaps with the end of the stream. -/
  | toFar (now : Duplex S I E X S' E' X') (more : RecvStream X')
      (extended : now.far.recv.Extends more) (sent : more.bytes <+: near.output now.near) :
      Step now { now with far.recv := more }
  /-- More of what the far end wrote, perhaps with the end of the stream. -/
  | toNear (now : Duplex S I E X S' E' X') (more : RecvStream X)
      (extended : now.near.recv.Extends more) (sent : more.bytes <+: far.output now.far) :
      Step now { now with near.recv := more }
  /-- The next local input. -/
  | input (now : Duplex S I E X S' E' X') (more : I) :
      Step now { now with near.input := now.near.input ++ [more] }

def Reachable (start now : Duplex S I E X S' E' X') : Prop :=
  Relation.ReflTransGen (Step near far) start now

/-- All that was delivered was written by the other end before. -/
structure Delivered (now : Duplex S I E X S' E' X') : Prop where
  toFar : now.far.recv.bytes <+: near.output now.near
  toNear : now.near.recv.bytes <+: far.output now.far

/-- All that was written has been delivered. -/
structure Quiescent (now : Duplex S I E X S' E' X') : Prop where
  toFar : now.far.recv.bytes = near.output now.near
  toNear : now.near.recv.bytes = far.output now.far

/-- Either half of the stream ends only after everything on it, and only once its writer
is done. -/
structure Orderly (now : Duplex S I E X S' E' X') : Prop where
  toFar : now.far.recv.fin ≠ none → now.far.recv.bytes = near.output now.near ∧
    (near.act.run now.near).1 ≠ .error .pending
  toNear : now.near.recv.fin ≠ none → now.near.recv.bytes = far.output now.far ∧
    (far.act.run now.far).1 ≠ .error .pending

variable {near far} {start now next : Duplex S I E X S' E' X'}

theorem Step.near_extends (step : Step near far now next) : now.near.Extends next.near := by
  cases step with
  | toFar more extended sent => exact Endpoint.Extends.refl _
  | toNear more extended sent => exact ⟨rfl, List.prefix_rfl, .inr extended, rfl, rfl⟩
  | input more => exact ⟨rfl, List.prefix_append _ _, .inl rfl, rfl, rfl⟩

theorem Step.far_extends (step : Step near far now next) : now.far.Extends next.far := by
  cases step with
  | toFar more extended sent => exact ⟨rfl, List.prefix_rfl, .inr extended, rfl, rfl⟩
  | toNear more extended sent => exact Endpoint.Extends.refl _
  | input more => exact Endpoint.Extends.refl _

theorem Delivered.step (delivered : Delivered near far now) (step : Step near far now next) :
    Delivered near far next := by
  have nearGrows := near.output_prefix step.near_extends
  have farGrows := far.output_prefix step.far_extends
  cases step with
  | toFar more extended sent => exact ⟨sent, delivered.toNear.trans farGrows⟩
  | toNear more extended sent => exact ⟨delivered.toFar.trans nearGrows, sent⟩
  | input more => exact ⟨delivered.toFar.trans nearGrows, delivered.toNear⟩

/-- Nothing is lost, changed or made up on the way, at any point of any interleaving. -/
theorem Reachable.delivered (reachable : Reachable near far start now)
    (nearEmpty : start.near.recv.bytes = []) (farEmpty : start.far.recv.bytes = []) :
    Delivered near far now := by
  induction reachable with
  | refl =>
      exact ⟨by rw [farEmpty]; exact List.nil_prefix, by rw [nearEmpty]; exact List.nil_prefix⟩
  | tail _ step ih => exact ih.step step

/-- Everything written so far arrives at the far end. -/
def deliverFar (near : Party S I E X ε α) (now : Duplex S I E X S' E' X') :
    Duplex S I E X S' E' X' :=
  { now with far.recv.bytes := near.output now.near }

/-- Everything written so far arrives at the near end. -/
def deliverNear (far : Party S' Empty E' X' ε' β) (now : Duplex S I E X S' E' X') :
    Duplex S I E X S' E' X' :=
  { now with near.recv.bytes := far.output now.far }

theorem Delivered.step_deliverFar (delivered : Delivered near far now)
    (unfinished : now.far.recv.fin = none) : Step near far now (now.deliverFar near) :=
  .toFar now ⟨near.output now.near, now.far.recv.fin⟩ ⟨unfinished, delivered.toFar⟩ List.prefix_rfl

theorem Delivered.step_deliverNear (delivered : Delivered near far now)
    (unfinished : now.near.recv.fin = none) : Step near far now (now.deliverNear far) :=
  .toNear now ⟨far.output now.far, now.near.recv.fin⟩ ⟨unfinished, delivered.toNear⟩ List.prefix_rfl

theorem Delivered.reach_deliverFar (delivered : Delivered near far now)
    (orderly : Orderly near far now) : Reachable near far now (now.deliverFar near) := by
  by_cases unfinished : now.far.recv.fin = none
  · exact .single (delivered.step_deliverFar unfinished)
  · have same : now.deliverFar near = now := by
      rw [deliverFar, ← (orderly.toFar unfinished).1]
    rw [same]
    exact .refl

theorem Delivered.reach_deliverNear (delivered : Delivered near far now)
    (orderly : Orderly near far now) : Reachable near far now (now.deliverNear far) := by
  by_cases unfinished : now.near.recv.fin = none
  · exact .single (delivered.step_deliverNear unfinished)
  · have same : now.deliverNear far = now := by
      rw [deliverNear, ← (orderly.toNear unfinished).1]
    rw [same]
    exact .refl

theorem Orderly.deliverFar (orderly : Orderly near far now) (delivered : Delivered near far now) :
    Orderly near far (now.deliverFar near) where
  toFar := by
    intro finished
    exact ⟨rfl, (orderly.toFar finished).2⟩
  toNear := by
    intro finished
    obtain ⟨all, done⟩ := orderly.toNear finished
    have extended : now.far.Extends (now.deliverFar near).far := by
      by_cases unfinished : now.far.recv.fin = none
      · exact ⟨rfl, List.prefix_rfl, .inr ⟨unfinished, delivered.toFar⟩, rfl, rfl⟩
      · refine ⟨rfl, List.prefix_rfl, .inl ?_, rfl, rfl⟩
        rw [Duplex.deliverFar, ← (orderly.toFar unfinished).1]
    obtain ⟨same, log⟩ := far.act.run_done extended done
    refine ⟨?_, by rw [same]; exact done⟩
    rw [Party.output, log]
    exact all

theorem Orderly.deliverNear (orderly : Orderly near far now) (delivered : Delivered near far now) :
    Orderly near far (now.deliverNear far) where
  toNear := by
    intro finished
    exact ⟨rfl, (orderly.toNear finished).2⟩
  toFar := by
    intro finished
    obtain ⟨all, done⟩ := orderly.toFar finished
    have extended : now.near.Extends (now.deliverNear far).near := by
      by_cases unfinished : now.near.recv.fin = none
      · exact ⟨rfl, List.prefix_rfl, .inr ⟨unfinished, delivered.toNear⟩, rfl, rfl⟩
      · refine ⟨rfl, List.prefix_rfl, .inl ?_, rfl, rfl⟩
        rw [Duplex.deliverNear, ← (orderly.toNear unfinished).1]
    obtain ⟨same, log⟩ := near.act.run_done extended done
    refine ⟨?_, by rw [same]; exact done⟩
    rw [Party.output, log]
    exact all

/-- Only what was delivered changes. -/
theorem Reachable.frame (reachable : Reachable near far start now) :
    now.near = { start.near with input := now.near.input, recv := now.near.recv } ∧
      now.far = { start.far with recv := now.far.recv } := by
  induction reachable with
  | refl => exact ⟨rfl, rfl⟩
  | tail _ step ih =>
      obtain ⟨nearFrame, farFrame⟩ := ih
      cases step with
      | toFar more extended sent =>
          refine ⟨nearFrame, ?_⟩
          rw [farFrame]
      | toNear more extended sent =>
          refine ⟨?_, farFrame⟩
          rw [nearFrame]
      | input more =>
          refine ⟨?_, farFrame⟩
          rw [nearFrame]

end Duplex

end Framing
