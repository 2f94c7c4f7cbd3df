import ReviewProtocol.Lib.Duplex

set_option autoImplicit false

/- Two near ends that write the same, whatever is delivered to them. The far end cannot tell
which of them it has, so the two exchanges go the same ways. -/
namespace Framing.Duplex

variable {S I E X ε α T F ζ γ S' E' X' ε' β : Type}

/-- The same deliveries, to another near end. -/
def withNear (now : Duplex S I E X S' E' X') (w : Endpoint T I F X) :
    Duplex T I F X S' E' X' where
  near := { w with input := now.near.input, recv := now.near.recv }
  far := now.far

/-- What the one end writes, from where it starts, the other writes. -/
def Mirrors (near : Party S I E X ε α) (other : Party T I F X ζ γ) (w : Endpoint S I E X)
    (u : Endpoint T I F X) : Prop :=
  ∀ input recv, near.output { w with input, recv } = other.output { u with input, recv }

variable {near : Party S I E X ε α} {other : Party T I F X ζ γ}
  {far : Party S' Empty E' X' ε' β} {start now : Duplex S I E X S' E' X'} {u : Endpoint T I F X}

theorem Mirrors.symm {w : Endpoint S I E X} (mirrors : Mirrors near other w u) :
    Mirrors other near u w :=
  fun input recv => (mirrors input recv).symm

/-- Another near end that writes the same comes to the same. -/
theorem Reachable.mirror (mirrors : Mirrors near other start.near u)
    (reachable : Reachable near far start now) :
    Reachable other far (start.withNear u) (now.withNear u) := by
  induction reachable with
  | refl => exact .refl
  | @tail mid next prior step ih =>
      have framed := (Reachable.frame prior).1
      have same : near.output mid.near = other.output (mid.withNear u).near := by
        have written := mirrors mid.near.input mid.near.recv
        rw [← framed] at written
        exact written
      apply ih.tail
      cases step with
      | toFar more extended sent =>
          rw [same] at sent
          exact .toFar _ more extended sent
      | toNear more extended sent => exact .toNear _ more extended sent
      | input more => exact .input _ more

end Framing.Duplex
