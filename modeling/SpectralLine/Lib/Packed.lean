import Mathlib.Data.BitVec

set_option autoImplicit false

namespace Packed

-- An unsigned value in `width` bytes, low byte first.
def bytesLE : (width value : Nat) → List (BitVec 8)
  | 0, _ => []
  | width + 1, value => BitVec.ofNat 8 value :: bytesLE width (value / 256)

def valueLE : List (BitVec 8) → Nat
  | [] => 0
  | byte :: rest => byte.toNat + 256 * valueLE rest

@[simp] theorem bytes_le_length (width value : Nat) : (bytesLE width value).length = width := by
  induction width generalizing value with
  | zero => rfl
  | succ width ih => rw [bytesLE, List.length_cons, ih]

theorem value_bytes_le (width value : Nat) : valueLE (bytesLE width value) = value % 256 ^ width := by
  induction width generalizing value with
  | zero => rw [bytesLE, valueLE, Nat.pow_zero, Nat.mod_one]
  | succ width ih =>
      have split := (Nat.mod_mul : value % (256 * 256 ^ width) = _)
      rw [bytesLE, valueLE, ih, BitVec.toNat_ofNat, (Nat.pow_succ' : 256 ^ (width + 1) = _), split]

-- A member of a packed struct.
structure Field where
  width : Nat
  value : BitVec (8 * width)

def Field.bytes (field : Field) : List (BitVec 8) := bytesLE field.width field.value.toNat

def pack (fields : List Field) : List (BitVec 8) := fields.flatMap Field.bytes

-- The value of `width` bytes at an offset.
def fieldAt (buffer : List (BitVec 8)) (offset width : Nat) : Nat := valueLE ((buffer.drop offset).take width)

-- The offset and width of every member, one after the other from `start`.
def placed : (start : Nat) → (widths : List Nat) → List (Nat × Nat)
  | _, [] => []
  | start, width :: rest => (start, width) :: placed (start + width) rest

-- Values of a layout at an offset, or nothing when the buffer ends before.
def unpackFrom (widths : List Nat) (buffer : List (BitVec 8)) (offset : Nat) : Option (List Nat) :=
  if offset + widths.sum ≤ buffer.length then
    some ((placed offset widths).map fun place => fieldAt buffer place.1 place.2)
  else none

@[simp] theorem field_bytes_length (field : Field) : field.bytes.length = field.width := bytes_le_length _ _

theorem pack_length (fields : List Field) : (pack fields).length = (fields.map Field.width).sum := by
  induction fields with
  | nil => rfl
  | cons field rest ih =>
      rw [pack, List.flatMap_cons, List.length_append, ← pack, ih, field_bytes_length, List.map_cons, List.sum_cons]

theorem value_field_bytes (field : Field) : valueLE field.bytes = field.value.toNat := by
  have small : field.value.toNat < 256 ^ field.width := by
    have bound := field.value.isLt
    rwa [Nat.pow_mul] at bound
  rw [Field.bytes, value_bytes_le, Nat.mod_eq_of_lt small]

theorem field_at_start (before after : List (BitVec 8)) (field : Field) :
    fieldAt (before ++ (field.bytes ++ after)) before.length field.width = field.value.toNat := by
  have cut : (field.bytes ++ after).take field.width = field.bytes := by
    rw [List.take_append_of_le_length (Nat.le_of_eq (field_bytes_length field).symm)]
    exact List.take_of_length_le (Nat.le_of_eq (field_bytes_length field))
  rw [fieldAt, List.drop_left, cut, value_field_bytes]

theorem placed_values (fields : List Field) (before after : List (BitVec 8)) :
    (placed before.length (fields.map Field.width)).map
        (fun place => fieldAt (before ++ (pack fields ++ after)) place.1 place.2) =
      fields.map fun field => field.value.toNat := by
  induction fields generalizing before with
  | nil => rfl
  | cons field rest ih =>
      have whole : before ++ (pack (field :: rest) ++ after) = before ++ (field.bytes ++ (pack rest ++ after)) := by
        rw [pack, List.flatMap_cons, List.append_assoc, ← pack]
      have further := ih (before ++ field.bytes)
      rw [List.length_append, field_bytes_length, List.append_assoc] at further
      rw [whole, List.map_cons, placed, List.map_cons, List.map_cons, further, field_at_start]

-- A packed struct between other bytes is read back member by member.
theorem unpack_pack (fields : List Field) (before after : List (BitVec 8)) :
    unpackFrom (fields.map Field.width) (before ++ (pack fields ++ after)) before.length =
      some (fields.map fun field => field.value.toNat) := by
  have inside : before.length + (fields.map Field.width).sum ≤ (before ++ (pack fields ++ after)).length := by
    rw [List.length_append, List.length_append, pack_length]
    omega
  rw [unpackFrom, if_pos inside, placed_values]

end Packed
