import SpectralLine.Quantize
import Mathlib.Data.Int.Basic
import Mathlib.Tactic.IntervalCases

set_option autoImplicit false

namespace SpectralLine

-- _signed_fields on one value.
def signedField (value : Byte) (bits : Nat) : Int :=
  let sign := 1 <<< (bits - 1)
  ((value.toNat ^^^ sign : Nat) : Int) - (sign : Nat)

-- reshape(-1, 2) of the components into I, Q.
def reshapePairs : List Int → List (Int × Int)
  | i :: q :: rest => (i, q) :: reshapePairs rest
  | _ => []

def twoBitFields (packed : Byte) : List Byte := [packed &&& 0x03, packed >>> 2 &&& 0x03, packed >>> 4 &&& 0x03, packed >>> 6]

def decodeComplexPayload (payload : List Byte) (bitsPerSample : Nat) : Except String (List (Int × Int)) :=
  if bitsPerSample = 8 then
    if payload.length % 2 ≠ 0 then .error "8-bit complex payload has an odd byte count"
    else .ok (reshapePairs (payload.map BitVec.toInt))
  else if bitsPerSample = 4 then
    .ok (payload.map fun packed => (signedField (packed &&& 0x0f) 4, signedField (packed >>> 4) 4))
  else if bitsPerSample = 2 then .ok (reshapePairs ((payload.flatMap twoBitFields).map fun field => signedField field 2))
  else .error ("unsupported VDIF component width " ++ toString bitsPerSample ++ "; expected 8, 4, or 2")

-- A component of an offset-binary byte at a width.
def component (bits : Nat) (byte : Byte) : Int := Int.fdiv ((byte.toNat : Int) - 128) (2 ^ (8 - bits))

-- I and Q of the bytes Q0, I0, Q1, I1, ...
def samplesOf (bits : Nat) : List Byte → List (Int × Int)
  | q :: i :: rest => (component bits i, component bits q) :: samplesOf bits rest
  | _ => []

theorem samples_indexed (bits : Nat) (payload : List Byte) :
    samplesOf bits payload = (List.range (payload.length / 2)).map fun k =>
      (component bits (payload.getD (2 * k + 1) 0), component bits (payload.getD (2 * k) 0)) := by
  fun_induction samplesOf bits payload with
  | case1 q i rest ih =>
      have half : (q :: i :: rest).length / 2 = rest.length / 2 + 1 := by simp only [List.length_cons]; omega
      rw [half, List.range_succ_eq_map, List.map_cons, List.map_map, ih]
      congr 1
  | case2 short notPair =>
      have small : short.length / 2 = 0 := by
        cases short with
        | nil => rfl
        | cons q tail =>
            cases tail with
            | nil => simp
            | cons i rest => exact absurd rfl (notPair q i rest)
      rw [small]
      rfl

-- What the loops leave in the part they have written.
def packed8 : List Byte → List Byte
  | q :: i :: rest => (i ^^^ 0x80) :: (q ^^^ 0x80) :: packed8 rest
  | _ => []

def packed4 : List Byte → List Byte
  | q :: i :: rest => (((i ^^^ 0x80) >>> 4) ||| ((q ^^^ 0x80) &&& 0xf0)) :: packed4 rest
  | _ => []

def packed2 : List Byte → List Byte
  | q0 :: i0 :: q1 :: i1 :: rest =>
      ((i0 ^^^ 0x80) >>> 6 ||| ((q0 ^^^ 0x80) >>> 6 <<< 2) ||| ((i1 ^^^ 0x80) >>> 6 <<< 4) ||| ((q1 ^^^ 0x80) >>> 6 <<< 6)) ::
        packed2 rest
  | _ => []

theorem take_set_next (buf : List Byte) (output : Nat) (value : Byte) (inside : output < buf.length) :
    (buf.set output value).take (output + 1) = buf.take output ++ [value] := by
  rw [List.take_add_one, List.take_set_of_le (Nat.le_refl _), List.getElem?_set_self inside]
  rfl

theorem drop_two (buf : List Byte) (start : Nat) (inside : start + 1 < buf.length) :
    buf.drop start = buf.getD start 0 :: buf.getD (start + 1) 0 :: buf.drop (start + 2) := by
  rw [List.drop_eq_getElem_cons (by omega), List.drop_eq_getElem_cons inside]
  simp [List.getD_eq_getElem?_getD, inside, Nat.lt_of_succ_lt inside]

-- The output index is never ahead of the input index, so what is still to be
-- read has not been overwritten.
theorem quantize4_written (bytes input output : Nat) (buf : List Byte) (size : buf.length = bytes) (behind : output ≤ input) :
    (quantize4ScalarFrom bytes input output buf).take (output + (bytes - input) / 2) =
      buf.take output ++ packed4 (buf.drop input) := by
  fun_induction quantize4ScalarFrom bytes input output buf with
  | case1 input output buf more ih =>
      have step := ih (by rw [List.length_set, size]) (by omega)
      have count : output + 1 + (bytes - (input + 2)) / 2 = output + (bytes - input) / 2 := by omega
      rw [count, take_set_next buf output _ (by omega), List.drop_set_of_lt (by omega)] at step
      rw [step, drop_two buf input (by omega), packed4, List.append_assoc]
      rfl
  | case2 input output buf done =>
      have none : (bytes - input) / 2 = 0 := by omega
      have short : (buf.drop input).length ≤ 1 := by rw [List.length_drop]; omega
      have empty : packed4 (buf.drop input) = [] := by
        cases rest : buf.drop input with
        | nil => rfl
        | cons q tail =>
            cases tail with
            | nil => rfl
            | cons i tail => rw [rest] at short; simp only [List.length_cons] at short; omega
      rw [none, empty, Nat.add_zero, List.append_nil]

theorem quantize2_written (bytes input output : Nat) (buf : List Byte) (size : buf.length = bytes) (behind : output ≤ input) :
    (quantize2From bytes input output buf).take (output + (bytes - input) / 4) =
      buf.take output ++ packed2 (buf.drop input) := by
  fun_induction quantize2From bytes input output buf with
  | case1 input output buf more q0 i0 q1 i1 ih =>
      have step := ih (by rw [List.length_set, size]) (by omega)
      have count : output + 1 + (bytes - (input + 4)) / 4 = output + (bytes - input) / 4 := by omega
      rw [count, take_set_next buf output _ (by omega), List.drop_set_of_lt (by omega)] at step
      rw [step, drop_two buf input (by omega), drop_two buf (input + 2) (by omega), packed2, List.append_assoc]
      rfl
  | case2 input output buf done =>
      have none : (bytes - input) / 4 = 0 := by omega
      have short : (buf.drop input).length ≤ 3 := by rw [List.length_drop]; omega
      have empty : packed2 (buf.drop input) = [] := by
        unfold packed2
        split
        · rename_i q0 i0 q1 i1 rest whole
          rw [whole] at short
          simp only [List.length_cons] at short
          omega
        · rfl
      rw [none, empty, Nat.add_zero, List.append_nil]

theorem quantize8_written (bytes i : Nat) (buf : List Byte) (size : buf.length = bytes) (even : (bytes - i) % 2 = 0)
    (inside : i ≤ bytes) : quantize8ScalarFrom bytes i buf = buf.take i ++ packed8 (buf.drop i) := by
  fun_induction quantize8ScalarFrom bytes i buf with
  | case1 i buf more q inPhase ih =>
      have written : ((buf.set i (inPhase ^^^ 0x80)).set (i + 1) (q ^^^ 0x80)).take (i + 2) =
          buf.take i ++ [inPhase ^^^ 0x80, q ^^^ 0x80] := by
        rw [take_set_next _ (i + 1) _ (by rw [List.length_set]; omega), take_set_next buf i _ (by omega), List.append_assoc]
        rfl
      rw [ih (by simp only [List.length_set, size]) (by omega) (by omega), written, List.drop_set_of_lt (by omega),
        List.drop_set_of_lt (by omega), drop_two buf i (by omega), packed8, List.append_assoc]
      rfl
  | case2 i buf done odd => omega
  | case3 i buf done beyond =>
      have last : i = buf.length := by omega
      rw [last, List.take_length, List.drop_length, packed8, List.append_nil]
      simp

theorem sign8 : ∀ byte : Byte, (byte ^^^ 0x80).toInt = component 8 byte := by decide +kernel

theorem sign4 : ∀ byte : Byte, signedField ((byte ^^^ 0x80) >>> 4) 4 = component 4 byte := by decide +kernel

theorem sign2 : ∀ byte : Byte, signedField ((byte ^^^ 0x80) >>> 6) 2 = component 2 byte := by decide +kernel

theorem nibbles (q i : Byte) :
    let packed : Byte := ((i ^^^ 0x80) >>> 4) ||| ((q ^^^ 0x80) &&& 0xf0)
    packed &&& (0x0f : Byte) = (i ^^^ 0x80) >>> 4 ∧ packed >>> 4 = (q ^^^ 0x80) >>> 4 := by
  intro packed
  constructor
  all_goals
    ext k inside
    interval_cases k <;> simp [packed]

theorem two_bit_fields (a b c d : Byte) :
    twoBitFields (a >>> 6 ||| (b >>> 6 <<< 2) ||| (c >>> 6 <<< 4) ||| (d >>> 6 <<< 6)) =
      [a >>> 6, b >>> 6, c >>> 6, d >>> 6] := by
  simp only [twoBitFields, List.cons.injEq, and_true]
  refine ⟨?_, ?_, ?_, ?_⟩
  all_goals
    ext k inside
    interval_cases k <;> simp

theorem decode8 (payload : List Byte) : reshapePairs ((packed8 payload).map BitVec.toInt) = samplesOf 8 payload := by
  fun_induction packed8 payload with
  | case1 q i rest ih => rw [List.map_cons, List.map_cons, reshapePairs, samplesOf, ih, sign8, sign8]
  | case2 short notPair => rw [samplesOf] <;> first | rfl | exact notPair

theorem decode4 (payload : List Byte) :
    (packed4 payload).map (fun packed => (signedField (packed &&& 0x0f) 4, signedField (packed >>> 4) 4)) =
      samplesOf 4 payload := by
  fun_induction packed4 payload with
  | case1 q i rest ih =>
      obtain ⟨low, high⟩ := nibbles q i
      rw [List.map_cons, samplesOf, ih, low, high, sign4, sign4]
  | case2 short notPair => rw [samplesOf] <;> first | rfl | exact notPair

theorem decode2 (payload : List Byte) (whole : payload.length % 4 = 0) :
    reshapePairs (((packed2 payload).flatMap twoBitFields).map fun field => signedField field 2) = samplesOf 2 payload := by
  fun_induction packed2 payload with
  | case1 q0 i0 q1 i1 rest ih =>
      have later := ih (by simp only [List.length_cons] at whole; omega)
      rw [List.flatMap_cons, two_bit_fields]
      simp only [List.cons_append, List.nil_append, List.map_cons, reshapePairs, samplesOf, later, sign2]
  | case2 short notFour =>
      cases short with
      | nil => rfl
      | cons a tail =>
          cases tail with
          | nil => simp at whole
          | cons b tail =>
              cases tail with
              | nil => simp at whole
              | cons c tail =>
                  cases tail with
                  | nil => simp at whole
                  | cons d rest => exact absurd rfl (notFour a b c d rest)

theorem packed_take (bits : Nat) (payload : List Byte) (whole : payload.length % 4 = 0) (width : bits = 8 ∨ bits = 4 ∨ bits = 2) :
    (quantize (BitVec.ofNat 8 bits) false payload payload.length).take (payload.length * bits / 8) =
      if bits = 8 then packed8 payload else if bits = 4 then packed4 payload else packed2 payload := by
  rcases width with rfl | rfl | rfl
  · have written := quantize8_written payload.length 0 payload rfl (by omega) (Nat.zero_le _)
    have size : (quantize8ScalarFrom payload.length 0 payload).length = payload.length := quantize8_scalar_length _ _ _
    have all : payload.length * 8 / 8 = payload.length := Nat.mul_div_cancel _ (by decide)
    rw [all, if_pos rfl]
    exact (List.take_of_length_le (Nat.le_of_eq size)).trans written
  · have written := quantize4_written payload.length 0 0 payload rfl (Nat.le_refl _)
    have half : payload.length * 4 / 8 = 0 + (payload.length - 0) / 2 := by omega
    rw [half]
    exact written
  · have written := quantize2_written payload.length 0 0 payload rfl (Nat.le_refl _)
    have quarter : payload.length * 2 / 8 = 0 + (payload.length - 0) / 4 := by omega
    rw [quarter]
    exact written

theorem packed8_even (payload : List Byte) : (packed8 payload).length % 2 = 0 := by
  fun_induction packed8 payload with
  | case1 q i rest ih => simp only [List.length_cons]; omega
  | case2 short notPair => rfl

theorem decoded_payload (payload : List Byte) (bits : Nat) (whole : payload.length % 4 = 0)
    (width : bits = 8 ∨ bits = 4 ∨ bits = 2) :
    decodeComplexPayload
        ((quantize (BitVec.ofNat 8 bits) false payload payload.length).take (payload.length * bits / 8)) bits =
      .ok (samplesOf bits payload) := by
  rw [packed_take bits payload whole width]
  rcases width with rfl | rfl | rfl
  · have even : ¬ (packed8 payload).length % 2 ≠ 0 := fun odd => odd (packed8_even payload)
    rw [decodeComplexPayload, if_pos rfl, if_pos rfl, if_neg even, decode8]
  · exact congrArg Except.ok (decode4 payload)
  · exact congrArg Except.ok (decode2 payload whole)

-- Offset-binary zero stays zero at every width.
theorem zero_component (bits : Nat) : component bits 0x80 = 0 := by
  simp [component]

theorem zero_samples (bits count : Nat) : samplesOf bits (List.replicate count 0x80) = List.replicate (count / 2) (0, 0) := by
  rw [samples_indexed, List.length_replicate]
  refine List.eq_replicate_iff.mpr ⟨by rw [List.length_map, List.length_range], ?_⟩
  intro sample member
  obtain ⟨k, inside, rfl⟩ := List.mem_map.mp member
  have below := List.mem_range.mp inside
  have fill : ∀ j < count, (List.replicate count (0x80 : Byte)).getD j 0 = 0x80 := by
    intro j early
    rw [List.getD_eq_getElem?_getD, List.getElem?_replicate_of_lt early]
    rfl
  rw [fill _ (by omega), fill _ (by omega), zero_component]

theorem quantise_decode_round_trip (payload : List Byte) (bits : Nat) (whole : payload.length % 4 = 0)
    (width : bits = 8 ∨ bits = 4 ∨ bits = 2) :
    let decoded := decodeComplexPayload
      ((quantize (BitVec.ofNat 8 bits) false payload payload.length).take (payload.length * bits / 8)) bits
    decoded = .ok ((List.range (payload.length / 2)).map fun k =>
      (component bits (payload.getD (2 * k + 1) 0), component bits (payload.getD (2 * k) 0))) ∧
    ((∀ byte ∈ payload, byte = 0x80) → decoded = .ok (List.replicate (payload.length / 2) (0, 0))) := by
  have decoded := decoded_payload payload bits whole width
  refine ⟨by rw [← samples_indexed]; exact decoded, fun fill => ?_⟩
  rw [List.eq_replicate_of_mem fill] at decoded ⊢
  rw [zero_samples] at decoded
  simpa only [List.length_replicate] using decoded

theorem quantise_decode_round_trip_sample :
    decodeComplexPayload ((quantize 4 false [0x00, 0x10, 0xa0, 0xf0] 4).take 2) 4 = .ok [(-7, -8), (7, 2)] :=
  (quantise_decode_round_trip [0x00, 0x10, 0xa0, 0xf0] 4 rfl (Or.inr (Or.inl rfl))).1

end SpectralLine
