import Mathlib.Algebra.Ring.Nat
import Mathlib.Data.List.Basic
import Mathlib.Data.List.Infix

set_option autoImplicit false

/- Length-delimited frames over a reliable byte stream. A frame is its length
as a big-endian 32-bit word followed by that many bytes; a stream is what has
arrived and not been read, together with what a read past it would meet. -/
namespace Framing

abbrev Bytes := List UInt8

/-- Big-endian 32-bit word. -/
def be32 (n : Nat) : Bytes :=
  [UInt8.ofNat (n / 2 ^ 24), UInt8.ofNat (n / 2 ^ 16), UInt8.ofNat (n / 2 ^ 8), UInt8.ofNat n]

/-- Little-endian 32-bit word. -/
def le32 (n : Nat) : Bytes :=
  [UInt8.ofNat n, UInt8.ofNat (n / 2 ^ 8), UInt8.ofNat (n / 2 ^ 16), UInt8.ofNat (n / 2 ^ 24)]

/-- The first length a length word cannot express. -/
def frameLimit : Nat := 4294967296

def word (a b c d : UInt8) : Nat :=
  a.toNat * 2 ^ 24 + b.toNat * 2 ^ 16 + c.toNat * 2 ^ 8 + d.toNat

theorem word_lt (a b c d : UInt8) : word a b c d < frameLimit := by
  have ha := a.toNat_lt
  have hb := b.toNat_lt
  have hc := c.toNat_lt
  have hd := d.toNat_lt
  unfold word frameLimit
  omega

theorem word_ofNat (n : Nat) (small : n < frameLimit) :
    word (UInt8.ofNat (n / 2 ^ 24)) (UInt8.ofNat (n / 2 ^ 16)) (UInt8.ofNat (n / 2 ^ 8))
      (UInt8.ofNat n) = n := by
  unfold frameLimit at small
  simp only [word, UInt8.toNat_ofNat']
  omega

theorem be32_word (a b c d : UInt8) : be32 (word a b c d) = [a, b, c, d] := by
  have ha := a.toNat_lt
  have hb := b.toNat_lt
  have hc := c.toNat_lt
  have hd := d.toNat_lt
  have first : UInt8.ofNat (word a b c d / 2 ^ 24) = a := by
    apply UInt8.toNat_inj.mp
    simp only [word, UInt8.toNat_ofNat']
    omega
  have second : UInt8.ofNat (word a b c d / 2 ^ 16) = b := by
    apply UInt8.toNat_inj.mp
    simp only [word, UInt8.toNat_ofNat']
    omega
  have third : UInt8.ofNat (word a b c d / 2 ^ 8) = c := by
    apply UInt8.toNat_inj.mp
    simp only [word, UInt8.toNat_ofNat']
    omega
  have fourth : UInt8.ofNat (word a b c d) = d := by
    apply UInt8.toNat_inj.mp
    simp only [word, UInt8.toNat_ofNat']
    omega
  simp only [be32, first, second, third, fourth]

@[simp] theorem length_be32 (n : Nat) : (be32 n).length = 4 := rfl

/-- The bytes a frame occupies on the wire. -/
def frame (body : Bytes) : Bytes := be32 body.length ++ body

/-- The first whole frame and what follows it, if the bytes hold one. -/
def splitFrame : Bytes → Option (Bytes × Bytes)
  | a :: b :: c :: d :: rest =>
      if word a b c d ≤ rest.length then
        some (rest.take (word a b c d), rest.drop (word a b c d))
      else none
  | _ => none

theorem length_frame (body : Bytes) : (frame body).length = body.length + 4 := by
  simp only [frame, List.length_append, length_be32]
  omega

theorem splitFrame_frame (body rest : Bytes) (fits : body.length < frameLimit) :
    splitFrame (frame body ++ rest) = some (body, rest) := by
  simp only [frame, be32, List.cons_append, List.nil_append, splitFrame,
    word_ofNat body.length fits, List.length_append, Nat.le_add_right, ↓reduceIte,
    List.take_left, List.drop_left]

/-- Bytes behind a length word are enough for a frame, even if the word was cut short. -/
theorem splitFrame_frame_isSome (body rest : Bytes) :
    (splitFrame (frame body ++ rest)).isSome := by
  have enough : word (UInt8.ofNat (body.length / 2 ^ 24)) (UInt8.ofNat (body.length / 2 ^ 16))
      (UInt8.ofNat (body.length / 2 ^ 8)) (UInt8.ofNat body.length) ≤ (body ++ rest).length := by
    simp only [word, UInt8.toNat_ofNat', List.length_append]
    omega
  simp only [frame, be32, List.cons_append, List.nil_append, splitFrame, if_pos enough,
    Option.isSome_some]

/-- A split is exact: the bytes are one encoded frame and the remainder. -/
theorem splitFrame_some {bytes body rest : Bytes} (split : splitFrame bytes = some (body, rest)) :
    bytes = frame body ++ rest ∧ body.length < frameLimit := by
  unfold splitFrame at split
  split at split
  · rename_i a b c d tail
    split at split
    · rename_i enough
      simp only [Option.some.injEq, Prod.mk.injEq] at split
      obtain ⟨rfl, rfl⟩ := split
      have size : (tail.take (word a b c d)).length = word a b c d := by
        simp only [List.length_take]
        omega
      refine ⟨?_, by rw [size]; exact word_lt a b c d⟩
      rw [frame, size, be32_word, List.append_assoc, List.take_append_drop]
      rfl
    · cases split
  · cases split

theorem splitFrame_length {bytes body rest : Bytes}
    (split : splitFrame bytes = some (body, rest)) :
    bytes.length = body.length + 4 + rest.length := by
  rw [(splitFrame_some split).1, List.length_append, length_frame]

/-- Bytes that arrive later do not change a frame that is already whole. -/
theorem splitFrame_append {bytes body rest : Bytes} (more : Bytes)
    (split : splitFrame bytes = some (body, rest)) :
    splitFrame (bytes ++ more) = some (body, rest ++ more) := by
  obtain ⟨rfl, fits⟩ := splitFrame_some split
  rw [List.append_assoc]
  exact splitFrame_frame body (rest ++ more) fits

/-- The first frame of some bytes is the first frame of all that extends them. -/
theorem frame_prefix {first other rest tail : Bytes}
    (shorter : frame first ++ rest <+: frame other ++ tail) (fits : first.length < frameLimit)
    (otherFits : other.length < frameLimit) : first = other ∧ rest <+: tail := by
  obtain ⟨more, whole⟩ := shorter
  have early := splitFrame_append more (splitFrame_frame first rest fits)
  rw [whole, splitFrame_frame other tail otherFits] at early
  obtain ⟨same, after⟩ := Prod.mk.inj (Option.some.inj early)
  exact ⟨same.symm, more, after.symm⟩

/-- The bytes are these whole frames, and after them less than one more. -/
structure Frames (bytes : Bytes) (bodies : List Bytes) (rest : Bytes) : Prop where
  bytes : bytes = bodies.flatMap frame ++ rest
  fits : ∀ body ∈ bodies, body.length < frameLimit
  incomplete : splitFrame rest = none

namespace Frames

variable {bytes body tail rest : Bytes} {bodies : List Bytes}

theorem nil (incomplete : splitFrame rest = none) : Frames rest [] rest := by
  refine ⟨rfl, ?_, incomplete⟩
  intro body member
  cases member

theorem cons (fits : body.length < frameLimit) (later : Frames tail bodies rest) :
    Frames (frame body ++ tail) (body :: bodies) rest := by
  refine ⟨?_, ?_, later.incomplete⟩
  · rw [List.flatMap_cons, List.append_assoc, later.bytes]
  · intro other member
    rcases List.mem_cons.mp member with rfl | old
    · exact fits
    · exact later.fits other old

/-- Frames with nothing behind them. -/
theorem whole (fits : ∀ body ∈ bodies, body.length < frameLimit) :
    Frames (bodies.flatMap frame) bodies [] := by
  refine ⟨?_, fits, rfl⟩
  rw [List.append_nil]

theorem uncons (frames : Frames bytes (body :: bodies) rest) :
    ∃ tail, bytes = frame body ++ tail ∧ body.length < frameLimit ∧ Frames tail bodies rest := by
  refine ⟨bodies.flatMap frame ++ rest, ?_, frames.fits body List.mem_cons_self, rfl, ?_,
    frames.incomplete⟩
  · rw [frames.bytes, List.flatMap_cons, List.append_assoc]
  · intro other member
    exact frames.fits other (List.mem_cons_of_mem _ member)

/-- The first frame is the first of the whole frames. -/
theorem first (frames : Frames (frame body ++ tail) bodies rest)
    (fits : body.length < frameLimit) :
    ∃ later, bodies = body :: later ∧ Frames tail later rest := by
  cases bodies with
  | nil =>
      have same : frame body ++ tail = rest := frames.bytes
      have incomplete := frames.incomplete
      rw [← same, splitFrame_frame body tail fits] at incomplete
      cases incomplete
  | cons other later =>
      obtain ⟨tail', bytes, otherFits, after⟩ := frames.uncons
      have split := splitFrame_frame other tail' otherFits
      rw [← bytes, splitFrame_frame body tail fits] at split
      obtain ⟨rfl, rfl⟩ := Prod.mk.inj (Option.some.inj split)
      exact ⟨later, rfl, after⟩

/-- Bytes are whole frames and a rest in one way only. -/
theorem unique {bodies' : List Bytes} {rest' : Bytes} (frames : Frames bytes bodies rest)
    (frames' : Frames bytes bodies' rest') : bodies = bodies' ∧ rest = rest' := by
  induction bodies generalizing bytes bodies' with
  | nil =>
      have same : bytes = rest := frames.bytes
      cases bodies' with
      | nil => exact ⟨rfl, same.symm.trans frames'.bytes⟩
      | cons body later =>
          obtain ⟨tail, whole, fits, -⟩ := frames'.uncons
          have incomplete := frames.incomplete
          rw [← same, whole, splitFrame_frame body tail fits] at incomplete
          cases incomplete
  | cons body later ih =>
      obtain ⟨tail, rfl, fits, after⟩ := frames.uncons
      obtain ⟨later', rfl, after'⟩ := frames'.first fits
      obtain ⟨rfl, rfl⟩ := ih after after'
      exact ⟨rfl, rfl⟩

end Frames

/-- What a read that cannot finish meets: more may still come, or a failure. -/
inductive Halt (ε : Type) where
  | pending
  | failed (error : ε)
deriving DecidableEq, Repr

/-- The receiving half of a stream. `fin` is `none` while the peer may still
send, and otherwise the error every read past the last byte returns. -/
structure RecvStream (X : Type) where
  bytes : Bytes
  fin : Option X

namespace RecvStream

variable {X : Type}

/-- Reads one frame. A read that meets the end consumes what was there, so
every later read fails the same way. -/
def recvRaw (stream : RecvStream X) : Except (Halt X) Bytes × RecvStream X :=
  match splitFrame stream.bytes with
  | some (body, rest) => (.ok body, { stream with bytes := rest })
  | none =>
      match stream.fin with
      | none => (.error .pending, stream)
      | some error => (.error (.failed error), { stream with bytes := [] })

/-- Nothing to read yet: the stream is open and holds no whole frame. -/
structure Waiting (stream : RecvStream X) : Prop where
  unfinished : stream.fin = none
  incomplete : splitFrame stream.bytes = none

/-- A stream delivers more of what another one holds. -/
structure Extends (stream more : RecvStream X) : Prop where
  unfinished : stream.fin = none
  bytes : stream.bytes <+: more.bytes

theorem recvRaw_split {bytes body rest : Bytes} (fin : Option X)
    (split : splitFrame bytes = some (body, rest)) :
    recvRaw ⟨bytes, fin⟩ = (.ok body, ⟨rest, fin⟩) := by
  simp only [recvRaw, split]

theorem recvRaw_frame (body rest : Bytes) (fin : Option X) (fits : body.length < frameLimit) :
    recvRaw ⟨frame body ++ rest, fin⟩ = (.ok body, ⟨rest, fin⟩) :=
  recvRaw_split fin (splitFrame_frame body rest fits)

theorem recvRaw_ok {stream stream' : RecvStream X} {body : Bytes}
    (read : recvRaw stream = (.ok body, stream')) :
    stream.bytes = frame body ++ stream'.bytes ∧ stream'.fin = stream.fin ∧
      body.length < frameLimit := by
  unfold recvRaw at read
  split at read
  · rename_i body' rest split
    cases read
    exact ⟨(splitFrame_some split).1, rfl, (splitFrame_some split).2⟩
  · split at read <;> cases read

theorem recvRaw_failed {stream stream' : RecvStream X} {error : X}
    (read : recvRaw stream = (.error (.failed error), stream')) :
    stream.fin = some error ∧ stream'.fin = some error ∧ stream'.bytes = [] := by
  unfold recvRaw at read
  split at read
  · cases read
  · split at read
    · cases read
    · rename_i error' ended
      cases read
      exact ⟨ended, ended, rfl⟩

theorem recvRaw_pending {stream stream' : RecvStream X}
    (read : recvRaw stream = (.error .pending, stream')) :
    stream.Waiting ∧ stream' = stream := by
  unfold recvRaw at read
  split at read
  · cases read
  · rename_i unfinished
    split at read
    · rename_i ended
      cases read
      exact ⟨⟨ended, unfinished⟩, rfl⟩
    · cases read

end RecvStream

/-- The sending half. Whether a frame goes out is the transport's choice at
each attempt, except that a frame too long for its length word never does. -/
structure SendStream (X : Type) where
  attempts : Nat
  outcome : Nat → Bytes → Option X
  fits : ∀ attempt body, outcome attempt body = none → body.length < frameLimit

namespace SendStream

variable {X : Type}

/-- Every frame the length word can express goes out. -/
def Reliable (stream : SendStream X) : Prop :=
  ∀ attempt body, body.length < frameLimit → stream.outcome attempt body = none

/-- A transport that takes every frame it can. -/
def healthy (tooLong : X) : SendStream X where
  attempts := 0
  outcome _ body := if body.length < frameLimit then none else some tooLong
  fits := by
    intro attempt body sent
    by_cases small : body.length < frameLimit
    · exact small
    · rw [if_neg small] at sent
      cases sent

theorem healthy_reliable (tooLong : X) : (healthy tooLong).Reliable :=
  fun _ _ fits => if_pos fits

def sendRaw (stream : SendStream X) (body : Bytes) : Except X Unit × SendStream X :=
  match stream.outcome stream.attempts body with
  | none => (.ok (), { stream with attempts := stream.attempts + 1 })
  | some error => (.error error, { stream with attempts := stream.attempts + 1 })

end SendStream

end Framing
