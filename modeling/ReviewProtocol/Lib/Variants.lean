import ReviewProtocol.Lib.Bincode

set_option autoImplicit false

/- Enumerations without payload, and what a codec says about bytes it did not write. -/
namespace Bincode

open Framing (Bytes)

namespace Codec

variable {α : Type}

/-- A variant is its place in the declaration. -/
def enumeration [DecidableEq α] (all : List α) (few : all.length < limit32)
    (complete : ∀ value, value ∈ all) : Codec α :=
  u32.refine (fun value => UInt32.ofNat (all.idxOf value)) (fun index => all[index.toNat]?) (by
    intro value
    have inside : all.idxOf value < all.length := List.idxOf_lt_length_of_mem (complete value)
    have same : (UInt32.ofNat (all.idxOf value)).toNat = all.idxOf value := by
      apply UInt32.toNat_ofNat_of_lt'
      unfold limit32 at few
      show all.idxOf value < 4294967296
      omega
    rw [same]
    exact List.getElem?_idxOf (complete value))

def i32 : Codec Int32 where
  encode i := writeVarint (zigzag i.toInt)
  reader := do
    let n ← readVarint 252
    pure (Int32.ofInt (unzigzag n))
  reads := by
    intro i rest
    have small : zigzag i.toInt < limit32 := by
      have lower := i.le_toInt
      have upper := i.toInt_lt
      exact zigzag_lt 2147483648 (by omega) (by omega)
    rw [Reader.run_bind_ok (run_readVarint 252 _ rest (allows_u32 small)), unzigzag_zigzag,
      Int32.ofInt_toInt]
    rfl

end Codec

end Bincode
