import ReviewProtocol.Lib.Framing
import Mathlib.Tactic.Positivity
import Mathlib.Tactic.Ring

set_option autoImplicit false

/- Positional binary encodings. A reader takes a value off the front of some bytes and
cannot look past what it takes; a codec is a writer with a reader that undoes it. The
integer, text and container formats are those of bincode's standard configuration. -/
namespace Bincode

open Framing (Bytes)

inductive DecodeError where
  | unexpectedEnd
  | invalid
deriving DecidableEq, Repr

/-- What is read depends only on the bytes read. -/
structure Reader (α : Type) where
  run : Bytes → Except DecodeError (α × Bytes)
  positional : ∀ bytes value rest, run bytes = .ok (value, rest) →
    ∃ used, bytes = used ++ rest ∧ ∀ other, run (used ++ other) = .ok (value, other)

namespace Reader

variable {α β : Type}

protected def pure (value : α) : Reader α where
  run bytes := .ok (value, bytes)
  positional := by
    intro bytes value' rest read
    cases read
    exact ⟨[], rfl, fun other => rfl⟩

protected def bind (first : Reader α) (next : α → Reader β) : Reader β where
  run bytes :=
    match first.run bytes with
    | .ok (value, rest) => (next value).run rest
    | .error error => .error error
  positional := by
    intro bytes value rest read
    split at read
    · rename_i middle left readFirst
      obtain ⟨used, rfl, local₁⟩ := first.positional _ _ _ readFirst
      obtain ⟨used', rfl, local₂⟩ := (next middle).positional _ _ _ read
      refine ⟨used ++ used', (List.append_assoc _ _ _).symm, fun other => ?_⟩
      rw [List.append_assoc, local₁]
      exact local₂ other
    · cases read

instance : Monad Reader where
  pure := Reader.pure
  bind := Reader.bind

@[simp] theorem run_pure (value : α) (bytes : Bytes) :
    (pure value : Reader α).run bytes = .ok (value, bytes) := rfl

theorem run_bind_ok {first : Reader α} {next : α → Reader β} {bytes rest : Bytes} {value : α}
    (read : first.run bytes = .ok (value, rest)) :
    (first >>= next).run bytes = (next value).run rest := by
  change (match first.run bytes with
    | .ok (value, rest) => (next value).run rest
    | .error error => .error error) = _
  rw [read]

def fail (error : DecodeError) : Reader α where
  run _ := .error error
  positional := by
    intro bytes value rest read
    cases read

def byte : Reader UInt8 where
  run
    | [] => .error .unexpectedEnd
    | first :: rest => .ok (first, rest)
  positional := by
    intro bytes value rest read
    cases bytes with
    | nil => cases read
    | cons first tail =>
        cases read
        exact ⟨[value], rfl, fun other => rfl⟩

@[simp] theorem run_byte (first : UInt8) (rest : Bytes) :
    byte.run (first :: rest) = .ok (first, rest) := rfl

/-- Reads an option's value, or fails. -/
def ofOption (value : Option α) : Reader α :=
  match value with
  | some value => pure value
  | none => fail .invalid

def replicate (element : Reader α) : Nat → Reader (List α)
  | 0 => pure []
  | count + 1 => do
      let first ← element
      let rest ← replicate element count
      pure (first :: rest)

end Reader

structure Codec (α : Type) where
  encode : α → Bytes
  reader : Reader α
  reads : ∀ value rest, reader.run (encode value ++ rest) = .ok (value, rest)

namespace Codec

variable {α β : Type}

@[simp] theorem run_bind (codec : Codec α) (next : α → Reader β) (value : α) (rest : Bytes) :
    (codec.reader >>= next).run (codec.encode value ++ rest) = (next value).run rest :=
  Reader.run_bind_ok (codec.reads value rest)

/-- A codec for values that are written as another type's, some of whose values may not
be read back. -/
def refine (codec : Codec α) (write : β → α) (read : α → Option β)
    (inverse : ∀ value, read (write value) = some value) : Codec β where
  encode value := codec.encode (write value)
  reader := do
    let raw ← codec.reader
    Reader.ofOption (read raw)
  reads := by
    intro value rest
    rw [run_bind, inverse]
    rfl

def unit : Codec Unit where
  encode _ := []
  reader := pure ()
  reads _ _ := rfl

def byte : Codec UInt8 where
  encode value := [value]
  reader := Reader.byte
  reads _ _ := rfl

def pair (first : Codec α) (second : Codec β) : Codec (α × β) where
  encode value := first.encode value.1 ++ second.encode value.2
  reader := do
    let left ← first.reader
    let right ← second.reader
    pure (left, right)
  reads := by
    intro value rest
    rw [List.append_assoc, run_bind, run_bind]
    rfl

theorem run_replicate (codec : Codec α) (values : List α) (rest : Bytes) :
    (codec.reader.replicate values.length).run (values.flatMap codec.encode ++ rest) =
      .ok (values, rest) := by
  induction values with
  | nil => rfl
  | cons value values ih =>
      rw [List.flatMap_cons, List.append_assoc]
      unfold Reader.replicate
      rw [List.length_cons, run_bind, Reader.run_bind_ok ih]
      rfl

end Codec

/-! ### Integers -/

/-- `count` bytes of a number, least significant first. -/
def littleEndian : Nat → Nat → Bytes
  | 0, _ => []
  | count + 1, n => UInt8.ofNat n :: littleEndian count (n / 256)

def readLittleEndian : Nat → Reader Nat
  | 0 => pure 0
  | count + 1 => do
      let low ← Reader.byte
      let high ← readLittleEndian count
      pure (low.toNat + 256 * high)

theorem run_readLittleEndian (count n : Nat) (rest : Bytes) (small : n < 256 ^ count) :
    (readLittleEndian count).run (littleEndian count n ++ rest) = .ok (n, rest) := by
  induction count generalizing n with
  | zero =>
      have zero : n = 0 := by simpa using small
      subst zero
      rfl
  | succ count ih =>
      have high : n / 256 < 256 ^ count := by
        rw [Nat.pow_succ] at small
        omega
      rw [littleEndian, List.cons_append, readLittleEndian,
        Reader.run_bind_ok (Reader.run_byte _ _), Reader.run_bind_ok (ih _ high)]
      have whole : (UInt8.ofNat n).toNat + 256 * (n / 256) = n := by
        rw [UInt8.toNat_ofNat']
        omega
      rw [whole]
      rfl

/-- `count` bytes of a number, most significant first, as addresses are written. -/
def bigEndian : Nat → Nat → Bytes
  | 0, _ => []
  | count + 1, n => UInt8.ofNat (n / 256 ^ count) :: bigEndian count (n % 256 ^ count)

def readBigEndian : Nat → Nat → Reader Nat
  | 0, high => pure high
  | count + 1, high => do
      let next ← Reader.byte
      readBigEndian count (256 * high + next.toNat)

theorem run_readBigEndian (count n high : Nat) (rest : Bytes) (small : n < 256 ^ count) :
    (readBigEndian count high).run (bigEndian count n ++ rest) =
      .ok (256 ^ count * high + n, rest) := by
  induction count generalizing n high with
  | zero =>
      have zero : n = 0 := by simpa using small
      subst zero
      simp [readBigEndian, bigEndian]
  | succ count ih =>
      have top : n / 256 ^ count < 256 := by
        rw [Nat.pow_succ] at small
        exact Nat.div_lt_of_lt_mul small
      have first : (UInt8.ofNat (n / 256 ^ count)).toNat = n / 256 ^ count := by
        rw [UInt8.toNat_ofNat']
        exact Nat.mod_eq_of_lt top
      rw [bigEndian, List.cons_append, readBigEndian, Reader.run_bind_ok (Reader.run_byte _ _),
        ih _ _ (Nat.mod_lt _ (by positivity)), first]
      have split := Nat.div_add_mod n (256 ^ count)
      congr 2
      rw [Nat.pow_succ, Nat.mul_add, Nat.add_assoc, split]
      ring

/-- Ones up to a zero. The format has no number this long; with it every natural number
has an encoding. -/
def unary : Nat → Bytes
  | 0 => [0]
  | n + 1 => 1 :: unary n

def splitUnary : Bytes → Except DecodeError (Nat × Bytes)
  | [] => .error .unexpectedEnd
  | first :: tail =>
      if first = 0 then .ok (0, tail)
      else
        match splitUnary tail with
        | .ok (n, rest) => .ok (n + 1, rest)
        | .error error => .error error

def readUnary : Reader Nat where
  run := splitUnary
  positional := by
    intro bytes
    induction bytes with
    | nil =>
        intro value rest read
        cases read
    | cons first tail ih =>
        intro value rest read
        unfold splitUnary at read
        split at read
        · cases read
          rename_i zero
          exact ⟨[first], rfl, fun other => by simp [splitUnary, zero]⟩
        · rename_i nonzero
          split at read
          · rename_i n left more
            cases read
            obtain ⟨used, rfl, anywhere⟩ := ih n rest more
            refine ⟨first :: used, rfl, fun other => ?_⟩
            rw [List.cons_append, splitUnary, if_neg nonzero, anywhere other]
          · cases read

theorem run_readUnary (n : Nat) (rest : Bytes) :
    readUnary.run (unary n ++ rest) = .ok (n, rest) := by
  induction n with
  | zero => rfl
  | succ n ih =>
      change splitUnary (1 :: (unary n ++ rest)) = _
      rw [splitUnary, if_neg (by decide), show splitUnary (unary n ++ rest) = _ from ih]

def limit16 : Nat := 65536

def limit32 : Nat := 4294967296

def limit64 : Nat := 18446744073709551616

def limit128 : Nat := 340282366920938463463374607431768211456

/-- A number below 251 is its own byte; above, a tag says how many bytes follow. -/
def writeVarint (n : Nat) : Bytes :=
  if n < 251 then [UInt8.ofNat n]
  else if n < limit16 then 251 :: littleEndian 2 n
  else if n < limit32 then 252 :: littleEndian 4 n
  else if n < limit64 then 253 :: littleEndian 8 n
  else if n < limit128 then 254 :: littleEndian 16 n
  else 255 :: unary n

/-- Reads a number whose type allows tags up to this one. -/
def readVarint (longest : UInt8) : Reader Nat := do
  let tag ← Reader.byte
  if tag < 251 then pure tag.toNat
  else if longest < tag then Reader.fail .invalid
  else if tag = 251 then readLittleEndian 2
  else if tag = 252 then readLittleEndian 4
  else if tag = 253 then readLittleEndian 8
  else if tag = 254 then readLittleEndian 16
  else readUnary

/-- The tag that a number needs, if any, is allowed. -/
def Allows (longest : UInt8) (n : Nat) : Prop :=
  (251 ≤ n → 251 ≤ longest) ∧ (limit16 ≤ n → 252 ≤ longest) ∧ (limit32 ≤ n → 253 ≤ longest) ∧
    (limit64 ≤ n → 254 ≤ longest) ∧ (limit128 ≤ n → 255 ≤ longest)

theorem run_readVarint (longest : UInt8) (n : Nat) (rest : Bytes) (fits : Allows longest n) :
    (readVarint longest).run (writeVarint n ++ rest) = .ok (n, rest) := by
  obtain ⟨fits8, fits16, fits32, fits64, fits128⟩ := fits
  unfold writeVarint
  by_cases small : n < 251
  · rw [if_pos small, List.singleton_append, readVarint, Reader.run_bind_ok (Reader.run_byte _ _)]
    have same : (UInt8.ofNat n).toNat = n := by
      rw [UInt8.toNat_ofNat']
      omega
    rw [if_pos (by rw [UInt8.lt_iff_toNat_lt, same]; exact small), same]
    rfl
  · have allowed (tag : UInt8) (enough : tag ≤ longest) : ¬ longest < tag := UInt8.not_lt.mpr enough
    rw [if_neg small]
    by_cases medium : n < limit16
    · rw [if_pos medium, List.cons_append, readVarint, Reader.run_bind_ok (Reader.run_byte _ _),
        if_neg (by decide), if_neg (allowed _ (fits8 (by omega))), if_pos rfl]
      exact run_readLittleEndian 2 n rest medium
    · rw [if_neg medium]
      by_cases large : n < limit32
      · rw [if_pos large, List.cons_append, readVarint, Reader.run_bind_ok (Reader.run_byte _ _),
          if_neg (by decide), if_neg (allowed _ (fits16 (by omega))), if_neg (by decide),
            if_pos rfl]
        exact run_readLittleEndian 4 n rest large
      · rw [if_neg large]
        by_cases huge : n < limit64
        · rw [if_pos huge, List.cons_append, readVarint, Reader.run_bind_ok (Reader.run_byte _ _),
            if_neg (by decide), if_neg (allowed _ (fits32 (by omega))), if_neg (by decide),
            if_neg (by decide), if_pos rfl]
          exact run_readLittleEndian 8 n rest huge
        · rw [if_neg huge]
          by_cases vast : n < limit128
          · rw [if_pos vast, List.cons_append, readVarint, Reader.run_bind_ok (Reader.run_byte _ _),
              if_neg (by decide), if_neg (allowed _ (fits64 (by omega))), if_neg (by decide),
              if_neg (by decide), if_neg (by decide), if_pos rfl]
            exact run_readLittleEndian 16 n rest vast
          · rw [if_neg vast, List.cons_append, readVarint, Reader.run_bind_ok (Reader.run_byte _ _),
              if_neg (by decide), if_neg (allowed _ (fits128 (by omega))), if_neg (by decide),
              if_neg (by decide), if_neg (by decide), if_neg (by decide)]
            exact run_readUnary n rest

namespace Codec

variable {α : Type}

/-- A length, or any other count. -/
def length : Codec Nat where
  encode := writeVarint
  reader := readVarint 255
  reads := by
    intro n rest
    apply run_readVarint
    exact ⟨fun _ => by decide, fun _ => by decide, fun _ => by decide, fun _ => by decide,
      fun _ => by decide⟩

theorem allows_u64 {n : Nat} (small : n < limit64) : Allows 253 n := by
  have below : limit64 < limit128 := by decide
  exact ⟨fun _ => by decide, fun _ => by decide, fun _ => by decide, fun large => by omega,
    fun large => by omega⟩

theorem allows_u32 {n : Nat} (small : n < limit32) : Allows 252 n := by
  have below : limit32 < limit64 := by decide
  have further : limit64 < limit128 := by decide
  exact ⟨fun _ => by decide, fun _ => by decide, fun large => by omega, fun large => by omega,
    fun large => by omega⟩

theorem allows_u16 {n : Nat} (small : n < limit16) : Allows 251 n := by
  have below : limit16 < limit32 := by decide
  have further : limit32 < limit64 := by decide
  have furthest : limit64 < limit128 := by decide
  exact ⟨fun _ => by decide, fun large => by omega, fun large => by omega, fun large => by omega,
    fun large => by omega⟩

theorem allows_u128 {n : Nat} (small : n < limit128) : Allows 254 n :=
  ⟨fun _ => by decide, fun _ => by decide, fun _ => by decide, fun _ => by decide,
    fun large => by omega⟩

def u64 : Codec UInt64 where
  encode n := writeVarint n.toNat
  reader := do
    let n ← readVarint 253
    pure (UInt64.ofNat n)
  reads := by
    intro n rest
    rw [Reader.run_bind_ok (run_readVarint 253 n.toNat rest (allows_u64 n.toNat_lt)),
      UInt64.ofNat_toNat]
    rfl

def u32 : Codec UInt32 where
  encode n := writeVarint n.toNat
  reader := do
    let n ← readVarint 252
    pure (UInt32.ofNat n)
  reads := by
    intro n rest
    rw [Reader.run_bind_ok (run_readVarint 252 n.toNat rest (allows_u32 n.toNat_lt)),
      UInt32.ofNat_toNat]
    rfl

def u16 : Codec UInt16 where
  encode n := writeVarint n.toNat
  reader := do
    let n ← readVarint 251
    pure (UInt16.ofNat n)
  reads := by
    intro n rest
    rw [Reader.run_bind_ok (run_readVarint 251 n.toNat rest (allows_u16 n.toNat_lt)),
      UInt16.ofNat_toNat]
    rfl

/-- A signed number as an unsigned one: nonnegative ones doubled, negative ones in
between. -/
def zigzag (i : Int) : Nat := if 0 ≤ i then 2 * i.toNat else 2 * (-i).toNat - 1

def unzigzag (n : Nat) : Int := if n % 2 = 0 then (n / 2 : Nat) else -((n / 2 + 1 : Nat) : Int)

theorem unzigzag_zigzag (i : Int) : unzigzag (zigzag i) = i := by
  unfold unzigzag zigzag
  by_cases sign : 0 ≤ i
  · rw [if_pos sign, if_pos (by omega)]
    omega
  · rw [if_neg sign, if_neg (by omega)]
    omega

/-- A fixed number of raw bytes, most significant first. -/
def octets (count : Nat) : Codec (BitVec (8 * count)) where
  encode bits := bigEndian count bits.toNat
  reader := do
    let n ← readBigEndian count 0
    pure (BitVec.ofNat _ n)
  reads := by
    intro bits rest
    have small : bits.toNat < 256 ^ count := by
      have bound := bits.isLt
      rw [Nat.pow_mul] at bound
      exact bound
    rw [Reader.run_bind_ok (run_readBigEndian count _ 0 rest small), Nat.mul_zero, Nat.zero_add,
      BitVec.ofNat_toNat, BitVec.setWidth_eq]
    rfl

/-- A fixed number of raw bytes, least significant first, as floating point is written. -/
def word (count : Nat) : Codec (BitVec (8 * count)) where
  encode bits := littleEndian count bits.toNat
  reader := do
    let n ← readLittleEndian count
    pure (BitVec.ofNat _ n)
  reads := by
    intro bits rest
    have small : bits.toNat < 256 ^ count := by
      have bound := bits.isLt
      rw [Nat.pow_mul] at bound
      exact bound
    rw [Reader.run_bind_ok (run_readLittleEndian count _ rest small), BitVec.ofNat_toNat,
      BitVec.setWidth_eq]
    rfl

theorem zigzag_lt {i : Int} (half : Nat) (lower : -(half : Int) ≤ i) (upper : i < half) :
    zigzag i < 2 * half := by
  unfold zigzag
  split
  · omega
  · omega

def i64 : Codec Int64 where
  encode i := writeVarint (zigzag i.toInt)
  reader := do
    let n ← readVarint 253
    pure (Int64.ofInt (unzigzag n))
  reads := by
    intro i rest
    have small : zigzag i.toInt < limit64 := by
      have lower := i.le_toInt
      have upper := i.toInt_lt
      exact zigzag_lt 9223372036854775808 (by omega) (by omega)
    rw [Reader.run_bind_ok (run_readVarint 253 _ rest (allows_u64 small)), unzigzag_zigzag,
      Int64.ofInt_toInt]
    rfl

def bool : Codec Bool where
  encode
    | false => [0]
    | true => [1]
  reader := do
    match ← Reader.byte with
    | 0 => pure false
    | 1 => pure true
    | _ => Reader.fail .invalid
  reads := by
    intro value rest
    cases value <;> rfl

/-! ### Containers -/

def option (codec : Codec α) : Codec (Option α) where
  encode
    | none => [0]
    | some value => 1 :: codec.encode value
  reader := do
    let tag ← Reader.byte
    if tag = 0 then pure none
    else if tag = 1 then do
      let value ← codec.reader
      pure (some value)
    else Reader.fail .invalid
  reads := by
    intro value rest
    cases value with
    | none => rfl
    | some value =>
        rw [List.cons_append, Reader.run_bind_ok (Reader.run_byte 1 _), if_neg (by decide),
          if_pos rfl,
          run_bind]
        rfl

def list (codec : Codec α) : Codec (List α) where
  encode values := length.encode values.length ++ values.flatMap codec.encode
  reader := do
    let count ← length.reader
    codec.reader.replicate count
  reads := by
    intro values rest
    rw [List.append_assoc, run_bind]
    exact run_replicate codec values rest

def bytes : Codec Bytes := list byte

def string : Codec String :=
  bytes.refine (fun text => text.toByteArray.data.toList)
    (fun raw => String.fromUTF8? ⟨raw.toArray⟩) (by
      intro text
      have valid : (⟨text.toByteArray.data.toList.toArray⟩ : ByteArray).IsValidUTF8 := by
        rw [Array.toArray_toList]
        exact text.isValidUTF8
      rw [String.fromUTF8?, dif_pos valid]
      rfl)

end Codec

/-! ### Bytes other than those written -/

namespace Reader

variable {α β ι : Type}

/-- The reader takes exactly these bytes for this value, whatever comes after them. -/
def Takes (reader : Reader α) (bytes : Bytes) (value : α) : Prop :=
  ∀ rest, reader.run (bytes ++ rest) = .ok (value, rest)

theorem Takes.bind {first : Reader α} {next : α → Reader β} {bytes more : Bytes} {middle : α}
    {value : β} (taken : first.Takes bytes middle) (later : (next middle).Takes more value) :
    (first >>= next).Takes (bytes ++ more) value := by
  intro rest
  rw [List.append_assoc, run_bind_ok (taken _)]
  exact later rest

/-- The value of a reader that ends with what it makes of another's. -/
theorem Takes.map {first : Reader α} {bytes : Bytes} {middle : α} (make : α → β)
    (taken : first.Takes bytes middle) : (first >>= fun value => pure (make value)).Takes bytes
      (make middle) := by
  intro rest
  rw [run_bind_ok (taken rest)]
  rfl

theorem Takes.replicate {reader : Reader α} (bytes : ι → Bytes) (value : ι → α)
    (taken : ∀ entry, reader.Takes (bytes entry) (value entry)) (entries : List ι) :
    (reader.replicate entries.length).Takes (entries.flatMap bytes) (entries.map value) := by
  induction entries with
  | nil =>
      intro rest
      rfl
  | cons entry entries ih =>
      rw [List.flatMap_cons, List.map_cons, List.length_cons]
      unfold Reader.replicate
      exact (taken entry).bind (ih.map _)

end Reader

theorem Codec.takes {α : Type} (codec : Codec α) (value : α) :
    codec.reader.Takes (codec.encode value) value := codec.reads value

theorem Codec.takes_list {α ι : Type} (codec : Codec α) (bytes : ι → Bytes) (value : ι → α)
    (taken : ∀ entry, codec.reader.Takes (bytes entry) (value entry)) (entries : List ι) :
    codec.list.reader.Takes (Codec.length.encode entries.length ++ entries.flatMap bytes)
      (entries.map value) :=
  (Codec.length.takes entries.length).bind (.replicate bytes value taken entries)

/-- Puts each byte at its position. -/
def overwrite (bytes : Bytes) (patches : List (Nat × UInt8)) : Bytes :=
  patches.foldl (fun bytes patch => bytes.set patch.1 patch.2) bytes

theorem set_middle (head tail : Bytes) (old new : UInt8) :
    (head ++ old :: tail).set head.length new = head ++ new :: tail := by
  rw [List.set_append_right _ _ (Nat.le_refl _), Nat.sub_self, List.set_cons_zero]

end Bincode
