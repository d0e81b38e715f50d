import Mathlib.Data.BitVec

set_option autoImplicit false

namespace BitField

variable {w : Nat}

-- A field of a packed word. `getBits` shifts it down and masks it; `putBits`
-- keeps the bits of `keep` and ORs an already masked field in at `shift`.
def getBits (shift : Nat) (mask word : BitVec w) : BitVec w := (word >>> shift) &&& mask

def putBits (keep : BitVec w) (shift : Nat) (field word : BitVec w) : BitVec w :=
  (word &&& keep) ||| (field <<< shift)

theorem shifted_mask (shift : Nat) (field mask : BitVec w) (fits : (mask <<< shift) >>> shift = mask) :
    ((field <<< shift) >>> shift) &&& mask = field &&& mask := by
  rw [← fits, ← BitVec.ushiftRight_and_distrib, ← BitVec.shiftLeft_and_distrib]
  apply BitVec.eq_of_getLsbD_eq
  intro i bound
  by_cases inside : shift + i < w
  · have above : ¬ shift + i < shift := by omega
    simp [inside, bound, above]
  · simp [inside]

theorem get_put_same (keep mask : BitVec w) (shift : Nat) (field word : BitVec w)
    (cleared : (keep >>> shift) &&& mask = 0#w) (fits : (mask <<< shift) >>> shift = mask) :
    getBits shift mask (putBits keep shift field word) = field &&& mask := by
  have old : (word >>> shift &&& keep >>> shift) &&& mask = 0#w := by
    rw [BitVec.and_assoc, cleared, BitVec.and_zero]
  rw [getBits, putBits, BitVec.ushiftRight_or_distrib, BitVec.and_or_distrib_right,
    BitVec.ushiftRight_and_distrib, old, shifted_mask shift field mask fits, BitVec.zero_or]

theorem get_put_other (keep mask : BitVec w) (shift other : Nat) (field word : BitVec w)
    (kept : (keep >>> other) &&& mask = mask) (outside : ((field <<< shift) >>> other) &&& mask = 0#w) :
    getBits other mask (putBits keep shift field word) = getBits other mask word := by
  rw [getBits, putBits, BitVec.ushiftRight_or_distrib, BitVec.and_or_distrib_right, outside,
    BitVec.or_zero, BitVec.ushiftRight_and_distrib, BitVec.and_assoc, kept, getBits]

theorem masked_outside (mask other : BitVec w) (shift down : Nat) (value : BitVec w)
    (outside : ((mask <<< shift) >>> down) &&& other = 0#w) :
    (((value &&& mask) <<< shift) >>> down) &&& other = 0#w := by
  rw [BitVec.shiftLeft_and_distrib, BitVec.ushiftRight_and_distrib, BitVec.and_assoc, outside,
    BitVec.and_zero]

theorem clear_then_or (word bits : BitVec w) : (word &&& ~~~bits) ||| bits = word ||| bits := by
  apply BitVec.eq_of_getLsbD_eq
  intro i bound
  simp only [BitVec.getLsbD_or, BitVec.getLsbD_and, BitVec.getLsbD_not]
  cases word.getLsbD i <;> cases bits.getLsbD i <;> simp [bound]

end BitField
