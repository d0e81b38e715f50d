import Mathlib.Data.BitVec

set_option autoImplicit false

namespace Crc

variable {w : Nat} (polynomial : BitVec w)

-- One shift of a reflected CRC register.
def bitStep (crc : BitVec w) : BitVec w := (crc >>> 1) ^^^ (if crc.getLsbD 0 then polynomial else 0#w)

def steps : Nat → BitVec w → BitVec w
  | 0, crc => crc
  | count + 1, crc => steps count (bitStep polynomial crc)

-- The bit-serial definition: every message bit enters at the low end.
def feed (crc : BitVec w) (bit : Bool) : BitVec w := bitStep polynomial (crc ^^^ (BitVec.ofBool bit).setWidth w)

def messageBits (bytes : List (BitVec 8)) : List Bool := bytes.flatMap fun byte => (List.range 8).map byte.getLsbD

def serial (crc : BitVec w) (bytes : List (BitVec 8)) : BitVec w := (messageBits bytes).foldl (feed polynomial) crc

-- The table-driven step.
def tableEntry (index : BitVec 8) : BitVec w := steps polynomial 8 (index.setWidth w)

def tableStep (crc : BitVec w) (byte : BitVec 8) : BitVec w :=
  tableEntry polynomial ((crc ^^^ byte.setWidth w).setWidth 8) ^^^ (crc >>> 8)

theorem bit_step_xor (left right : BitVec w) :
    bitStep polynomial (left ^^^ right) = bitStep polynomial left ^^^ bitStep polynomial right := by
  apply BitVec.eq_of_getLsbD_eq
  intro i bound
  simp only [bitStep, BitVec.getLsbD_xor, BitVec.getLsbD_ushiftRight]
  cases left.getLsbD 0 <;> cases right.getLsbD 0 <;> cases polynomial.getLsbD i <;>
    cases left.getLsbD (1 + i) <;> cases right.getLsbD (1 + i) <;> simp_all

theorem steps_xor (count : Nat) (left right : BitVec w) :
    steps polynomial count (left ^^^ right) = steps polynomial count left ^^^ steps polynomial count right := by
  induction count generalizing left right with
  | zero => rfl
  | succ count ih => rw [steps, bit_step_xor, ih, steps, steps]

-- Clear low bits only move out of the register.
theorem steps_shift (count : Nat) (crc : BitVec w) (clear : ∀ i < count, crc.getLsbD i = false) :
    steps polynomial count crc = crc >>> count := by
  induction count generalizing crc with
  | zero => rw [steps, BitVec.ushiftRight_zero]
  | succ count ih =>
      have low : bitStep polynomial crc = crc >>> 1 := by
        rw [bitStep, clear 0 (Nat.succ_pos count), if_neg Bool.false_ne_true, BitVec.xor_zero]
      have above : ∀ i < count, (crc >>> 1).getLsbD i = false := by
        intro i below
        rw [BitVec.getLsbD_ushiftRight, clear (1 + i) (by omega)]
      rw [steps, low, ih _ above, ← BitVec.shiftRight_add, Nat.add_comm]

theorem bit_step_shift_left (start : Nat) (value : BitVec w) :
    bitStep polynomial ((value >>> (start + 1)) <<< 1) = value >>> (start + 1) := by
  have moved := steps_shift polynomial 1 ((value >>> (start + 1)) <<< 1) (by
    intro i below
    rw [BitVec.getLsbD_shiftLeft]
    simp [below])
  rw [steps, steps] at moved
  rw [moved]
  apply BitVec.eq_of_getLsbD_eq
  intro i bound
  rw [BitVec.getLsbD_ushiftRight, BitVec.getLsbD_shiftLeft, Nat.add_sub_cancel_left, BitVec.getLsbD_ushiftRight]
  by_cases inside : 1 + i < w
  · simp [inside]
  · simp [inside, BitVec.getLsbD_of_ge value (start + 1 + i) (by omega)]

theorem shift_split (start : Nat) (value : BitVec w) :
    value >>> start = (BitVec.ofBool (value.getLsbD start)).setWidth w ^^^ ((value >>> (start + 1)) <<< 1) := by
  apply BitVec.eq_of_getLsbD_eq
  intro i bound
  cases i with
  | zero => simp [bound]
  | succ i => simp [bound, Nat.add_assoc, Nat.add_comm 1 i]

theorem feed_shift (start : Nat) (crc value : BitVec w) :
    feed polynomial crc (value.getLsbD start) ^^^ (value >>> (start + 1)) = bitStep polynomial (crc ^^^ (value >>> start)) := by
  rw [shift_split start value, ← BitVec.xor_assoc, bit_step_xor, bit_step_shift_left, feed]

-- Bits fed one by one are one value XORed in before as many shifts.
theorem feed_bits (count start : Nat) (crc value : BitVec w) (top : ∀ i, start + count ≤ i → value.getLsbD i = false) :
    ((List.range' start count).map value.getLsbD).foldl (feed polynomial) crc =
      steps polynomial count (crc ^^^ (value >>> start)) := by
  induction count generalizing start crc with
  | zero =>
      have empty : value >>> start = 0#w := by
        apply BitVec.eq_of_getLsbD_eq
        intro i _
        rw [BitVec.getLsbD_ushiftRight, top _ (by omega), BitVec.getLsbD_zero]
      rw [empty, BitVec.xor_zero]
      rfl
  | succ count ih =>
      rw [List.range'_succ, List.map_cons, List.foldl_cons, ih (start + 1) _ (fun i above => top i (by omega)), feed_shift, steps]

theorem serial_byte (wide : 8 ≤ w) (crc : BitVec w) (byte : BitVec 8) :
    ((List.range 8).map byte.getLsbD).foldl (feed polynomial) crc = steps polynomial 8 (crc ^^^ byte.setWidth w) := by
  have bits : (List.range 8).map byte.getLsbD = (List.range' 0 8).map (byte.setWidth w).getLsbD := by
    rw [← List.range_eq_range']
    apply List.map_congr_left
    intro i below
    have inside : i < w := by
      rw [List.mem_range] at below
      omega
    rw [BitVec.getLsbD_setWidth, decide_eq_true inside, Bool.true_and]
  have top : ∀ i, 0 + 8 ≤ i → (byte.setWidth w).getLsbD i = false := by
    intro i above
    rw [BitVec.getLsbD_setWidth, BitVec.getLsbD_of_ge byte i (by omega), Bool.and_false]
  rw [bits, feed_bits polynomial 8 0 crc _ top, BitVec.ushiftRight_zero]

theorem table_step_byte (crc : BitVec w) (byte : BitVec 8) :
    tableStep polynomial crc byte = steps polynomial 8 (crc ^^^ byte.setWidth w) := by
  have split : crc ^^^ byte.setWidth w =
      ((crc ^^^ byte.setWidth w).setWidth 8).setWidth w ^^^ ((crc >>> 8) <<< 8) := by
    apply BitVec.eq_of_getLsbD_eq
    intro i bound
    by_cases low : i < 8
    · simp [low, bound]
    · simp [low, bound, BitVec.getLsbD_of_ge byte i (by omega), Nat.add_sub_cancel' (Nat.le_of_not_lt low)]
  have moved : steps polynomial 8 ((crc >>> 8) <<< 8) = crc >>> 8 := by
    rw [steps_shift polynomial 8 _ (by
      intro i below
      simp [below])]
    apply BitVec.eq_of_getLsbD_eq
    intro i bound
    by_cases inside : 8 + i < w
    · simp [inside]
    · simp [inside, BitVec.getLsbD_of_ge crc (8 + i) (by omega)]
  rw [split, steps_xor, moved, tableStep, tableEntry]

-- The table-driven fold computes the bit-serial register.
theorem table_serial (wide : 8 ≤ w) (crc : BitVec w) (bytes : List (BitVec 8)) :
    bytes.foldl (tableStep polynomial) crc = serial polynomial crc bytes := by
  induction bytes generalizing crc with
  | nil => rfl
  | cons byte rest ih =>
      rw [List.foldl_cons, ih, serial, serial, messageBits, messageBits, List.flatMap_cons, List.foldl_append,
        serial_byte polynomial wide, table_step_byte polynomial]

-- Equal but for one window.
structure AgreeOutside {α : Type} (start width : Nat) (left right : List α) : Prop where
  length : left.length = right.length
  outside : ∀ i, i < start ∨ start + width ≤ i → left[i]? = right[i]?

-- At most a register of message bits, as the value they spell.
def windowValue (bits : List Bool) : BitVec w := (BitVec.ofBoolListLE bits).setWidth w

theorem window_value_digit (bits : List Bool) (i : Nat) (below : i < w) :
    (windowValue bits : BitVec w).getLsbD i = bits[i]?.getD false := by
  rw [windowValue, BitVec.getLsbD_setWidth, decide_eq_true below, Bool.true_and, BitVec.getLsbD_ofBoolListLE,
    List.getD_eq_getElem?_getD]

-- Errors inside one window of register width.
section Bursts

variable (top : polynomial.getLsbD (w - 1) = true)

include top

-- The top coefficient records the bit that left the register.
theorem bit_step_top (crc : BitVec w) : (bitStep polynomial crc).getLsbD (w - 1) = crc.getLsbD 0 := by
  have shifted : (crc >>> 1).getLsbD (w - 1) = false := by
    rw [BitVec.getLsbD_ushiftRight]
    exact BitVec.getLsbD_of_ge crc _ (by omega)
  rw [bitStep, BitVec.getLsbD_xor, shifted, Bool.false_xor]
  cases crc.getLsbD 0 with
  | false => rw [if_neg Bool.false_ne_true, BitVec.getLsbD_zero]
  | true => rw [if_pos rfl, top]

theorem bit_step_injective (left right : BitVec w) (same : bitStep polynomial left = bitStep polynomial right) : left = right := by
  have low : left.getLsbD 0 = right.getLsbD 0 := by
    rw [← bit_step_top polynomial top left, same, bit_step_top polynomial top right]
  have shifted : left >>> 1 = right >>> 1 := by
    rw [bitStep, bitStep, low] at same
    exact (BitVec.xor_left_inj _).mp same
  apply BitVec.eq_of_getLsbD_eq
  intro i _
  cases i with
  | zero => exact low
  | succ i =>
      have moved := congrArg (fun register => register.getLsbD i) shifted
      rwa [BitVec.getLsbD_ushiftRight, BitVec.getLsbD_ushiftRight, Nat.add_comm] at moved

theorem steps_injective (count : Nat) (left right : BitVec w) (same : steps polynomial count left = steps polynomial count right) :
    left = right := by
  induction count generalizing left right with
  | zero => exact same
  | succ count ih => exact bit_step_injective polynomial top left right (ih _ _ same)

-- No input of any length merges two registers.
theorem feed_injective (bits : List Bool) (left right : BitVec w)
    (same : bits.foldl (feed polynomial) left = bits.foldl (feed polynomial) right) : left = right := by
  induction bits generalizing left right with
  | nil => exact same
  | cons bit rest ih =>
      have stepped := bit_step_injective polynomial top _ _ (ih _ _ same)
      exact (BitVec.xor_left_inj _).mp stepped

omit top in
theorem feed_window (crc : BitVec w) (bits : List Bool) (short : bits.length ≤ w) :
    bits.foldl (feed polynomial) crc = steps polynomial bits.length (crc ^^^ windowValue bits) := by
  have read : bits = (List.range' 0 bits.length).map (windowValue bits : BitVec w).getLsbD := by
    apply List.ext_getElem
    · rw [List.length_map, List.length_range']
    · intro i inside _
      have digit := window_value_digit bits i (show i < w by omega)
      rw [List.getElem?_eq_getElem inside, Option.getD_some] at digit
      rw [List.getElem_map, List.getElem_range', Nat.one_mul, Nat.zero_add, digit]
  have clear : ∀ i, 0 + bits.length ≤ i → (windowValue bits : BitVec w).getLsbD i = false := by
    intro i above
    by_cases below : i < w
    · rw [window_value_digit bits i below, List.getElem?_eq_none (by omega), Option.getD_none]
    · exact BitVec.getLsbD_of_ge _ _ (by omega)
  have fed := feed_bits polynomial bits.length 0 crc _ clear
  rw [← read, BitVec.ushiftRight_zero] at fed
  exact fed

theorem window_injective (crc : BitVec w) (left right : List Bool) (sameLength : left.length = right.length) (short : left.length ≤ w)
    (same : left.foldl (feed polynomial) crc = right.foldl (feed polynomial) crc) : left = right := by
  rw [feed_window polynomial crc left short, feed_window polynomial crc right (sameLength ▸ short), ← sameLength] at same
  have values := (BitVec.xor_right_inj crc).mp (steps_injective polynomial top _ _ _ same)
  apply List.ext_getElem sameLength
  intro i inLeft inRight
  have digit := congrArg (fun value => value.getLsbD i) values
  have below : i < w := by omega
  simp only [window_value_digit _ i below, List.getElem?_eq_getElem inLeft, List.getElem?_eq_getElem inRight, Option.getD_some] at digit
  exact digit

theorem burst_injective (crc : BitVec w) (left right : List Bool) (start : Nat) (agree : AgreeOutside start w left right)
    (same : left.foldl (feed polynomial) crc = right.foldl (feed polynomial) crc) : left = right := by
  have parts : ∀ bits : List Bool, bits = bits.take start ++ ((bits.drop start).take w ++ bits.drop (start + w)) := by
    intro bits
    rw [← List.drop_drop, List.take_append_drop, List.take_append_drop]
  have before : left.take start = right.take start := by
    apply List.ext_getElem?
    intro i
    rw [List.getElem?_take, List.getElem?_take]
    by_cases below : i < start
    · rw [if_pos below, if_pos below, agree.outside i (Or.inl below)]
    · rw [if_neg below, if_neg below]
  have after : left.drop (start + w) = right.drop (start + w) := by
    apply List.ext_getElem?
    intro i
    rw [List.getElem?_drop, List.getElem?_drop, agree.outside _ (Or.inr (Nat.le_add_right _ _))]
  rw [parts left, parts right, before, after, List.foldl_append, List.foldl_append, List.foldl_append, List.foldl_append] at same
  have inside := window_injective polynomial top _ ((left.drop start).take w) ((right.drop start).take w)
    (by rw [List.length_take, List.length_take, List.length_drop, List.length_drop, agree.length])
    (by rw [List.length_take]; exact Nat.min_le_left _ _) (feed_injective polynomial top _ _ _ same)
  rw [parts left, parts right, before, after, inside]

end Bursts

@[simp] theorem message_bits_length (bytes : List (BitVec 8)) : (messageBits bytes).length = 8 * bytes.length := by
  induction bytes with
  | nil => rfl
  | cons byte rest ih =>
      rw [messageBits, List.flatMap_cons, List.length_append, ← messageBits, ih, List.length_map, List.length_range, List.length_cons]
      omega

-- Bit `8 k + j` of the message is bit `j` of byte `k`.
theorem message_bits_get (bytes : List (BitVec 8)) (i : Nat) :
    (messageBits bytes)[i]? = bytes[i / 8]?.map fun byte => byte.getLsbD (i % 8) := by
  induction bytes generalizing i with
  | nil => rfl
  | cons byte rest ih =>
      rw [messageBits, List.flatMap_cons, ← messageBits]
      by_cases first : i < 8
      · rw [List.getElem?_append_left (by simpa using first), Nat.div_eq_of_lt first, Nat.mod_eq_of_lt first]
        simp [first]
      · have later : i / 8 = (i - 8) / 8 + 1 := by omega
        have lane : i % 8 = (i - 8) % 8 := by omega
        rw [List.getElem?_append_right (by simpa using first), List.length_map, List.length_range, ih, later, lane,
          List.getElem?_cons_succ]

theorem message_bits_injective (left right : List (BitVec 8)) (same : messageBits left = messageBits right) : left = right := by
  apply List.ext_getElem
  · have lengths := congrArg List.length same
    rw [message_bits_length, message_bits_length] at lengths
    omega
  · intro k inLeft inRight
    apply BitVec.eq_of_getLsbD_eq
    intro j below
    have bit := congrArg (fun bits => bits[8 * k + j]?) same
    have byteAt : (8 * k + j) / 8 = k := by omega
    have bitAt : (8 * k + j) % 8 = j := by omega
    simp only [message_bits_get, byteAt, bitAt, List.getElem?_eq_getElem inLeft, List.getElem?_eq_getElem inRight, Option.map_some,
      Option.some.injEq] at bit
    exact bit

theorem agree_bits (start count : Nat) (left right : List (BitVec 8)) (agree : AgreeOutside start count left right) :
    AgreeOutside (8 * start) (8 * count) (messageBits left) (messageBits right) where
  length := by rw [message_bits_length, message_bits_length, agree.length]
  outside := by
    intro i away
    rw [message_bits_get, message_bits_get, agree.outside (i / 8) (by omega)]

end Crc
