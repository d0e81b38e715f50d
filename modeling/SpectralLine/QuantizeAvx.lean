import SpectralLine.PayloadDecode

set_option autoImplicit false

namespace SpectralLine

theorem store_at_nil (buf : List Byte) (start : Nat) : storeAt buf start [] = buf := by
  simp [storeAt]

-- A byte written before a chunk that starts right after it.
theorem store_at_set (buf chunk : List Byte) (start : Nat) (value : Byte) (inside : start < buf.length) :
    storeAt (buf.set start value) (start + 1) chunk = storeAt buf start (value :: chunk) := by
  rw [storeAt, storeAt, take_set_next buf start value inside, List.drop_set_of_lt (by omega), List.append_assoc _ [value],
    List.singleton_append, List.length_cons, Nat.add_assoc, Nat.add_comm 1]

theorem store_at_twice (buf chunk : List Byte) (start : Nat) (a b : Byte) (inside : start + 1 < buf.length) :
    storeAt ((buf.set start a).set (start + 1) b) (start + 2) chunk = storeAt buf start (a :: b :: chunk) := by
  rw [store_at_set _ _ (start + 1) b (by rw [List.length_set]; exact inside), store_at_set buf _ start a (by omega)]

theorem take_pairs (buf : List Byte) (start count : Nat) (inside : start + 1 < buf.length) :
    (buf.drop start).take (2 * (count + 1)) =
      buf.getD start 0 :: buf.getD (start + 1) 0 :: (buf.drop (start + 2)).take (2 * count) := by
  rw [drop_two buf start inside, Nat.mul_succ, List.take_succ_cons, List.take_succ_cons]

theorem quantize8_turns (bytes i count : Nat) (buf : List Byte) (size : buf.length = bytes) (room : i + 2 * count ≤ bytes) :
    quantize8ScalarFrom bytes i buf =
      quantize8ScalarFrom bytes (i + 2 * count) (storeAt buf i (packed8 ((buf.drop i).take (2 * count)))) := by
  induction count generalizing i buf with
  | zero =>
      rw [Nat.mul_zero, List.take_zero, packed8, store_at_nil, Nat.add_zero]
      simp
  | succ count ih =>
      have more : i + 1 < bytes := by omega
      rw [quantize8ScalarFrom, if_pos more, ih _ _ (by simp only [List.length_set, size]) (by omega),
        List.drop_set_of_lt (by omega), List.drop_set_of_lt (by omega), store_at_twice buf _ i _ _ (by omega),
        take_pairs buf i count (by omega), packed8, Nat.add_assoc, Nat.add_comm 2, ← Nat.mul_succ]

theorem quantize4_turns (bytes input output count : Nat) (buf : List Byte) (size : buf.length = bytes)
    (behind : output ≤ input) (room : input + 2 * count ≤ bytes) :
    quantize4ScalarFrom bytes input output buf = quantize4ScalarFrom bytes (input + 2 * count) (output + count)
      (storeAt buf output (packed4 ((buf.drop input).take (2 * count)))) := by
  induction count generalizing input output buf with
  | zero =>
      rw [Nat.mul_zero, List.take_zero, packed4, store_at_nil, Nat.add_zero, Nat.add_zero]
      simp
  | succ count ih =>
      have more : input + 1 < bytes := by omega
      rw [quantize4ScalarFrom, if_pos more, ih _ _ _ (by rw [List.length_set, size]) (by omega) (by omega),
        List.drop_set_of_lt (by omega), store_at_set buf _ output _ (by omega), take_pairs buf input count (by omega), packed4,
        Nat.add_assoc, Nat.add_comm 2, ← Nat.mul_succ, Nat.add_assoc output, Nat.add_comm 1]

theorem get_behind (front rest : List Byte) (i : Nat) : (front ++ rest).getD (front.length + i) 0 = rest.getD i 0 := by
  rw [List.getD_eq_getElem?_getD, List.getElem?_append_right (Nat.le_add_right _ _), Nat.add_sub_cancel_left,
    ← List.getD_eq_getElem?_getD]

theorem set_behind (front rest : List Byte) (i : Nat) (value : Byte) :
    (front ++ rest).set (front.length + i) value = front ++ rest.set i value := by
  rw [List.set_append_right _ _ (Nat.le_add_right _ _), Nat.add_sub_cancel_left]

-- The tail call works on the rest of the buffer as a buffer of its own.
theorem quantize8_tail (front rest : List Byte) (bytes i : Nat) :
    quantize8ScalarFrom (front.length + bytes) (front.length + i) (front ++ rest) =
      front ++ quantize8ScalarFrom bytes i rest := by
  fun_induction quantize8ScalarFrom bytes i rest with
  | case1 i rest more q inPhase ih =>
      have further : front.length + i + 1 < front.length + bytes := by omega
      rw [quantize8ScalarFrom, if_pos further, get_behind, Nat.add_assoc, get_behind, Nat.add_assoc]
      simp only [set_behind]
      exact ih
  | case2 i rest done odd =>
      have last : front.length + i < front.length + bytes := by omega
      rw [quantize8ScalarFrom, if_neg (by omega), if_pos last, get_behind, set_behind]
  | case3 i rest done even =>
      rw [quantize8ScalarFrom, if_neg (by omega), if_neg (by omega)]

-- A 16-bit lane by the bits of its two bytes.
structure Lane (lane : BitVec 16) (low high : Byte) : Prop where
  low : ∀ i < 8, lane.getLsbD i = low.getLsbD i
  high : ∀ i, lane.getLsbD (8 + i) = high.getLsbD i

theorem lane_of_bytes (low high : Byte) : Lane (high ++ low) low high := by
  constructor
  · intro i bound
    rw [show BitVec.getLsbD (high ++ low) i = _ from BitVec.getLsbD_append]
    simp [bound]
  · intro i
    rw [show BitVec.getLsbD (high ++ low) (8 + i) = _ from BitVec.getLsbD_append]
    simp

theorem swapped_lane (lane : BitVec 16) (low high : Byte) (bytes : Lane lane low high) :
    ((lane <<< 8) ||| (lane >>> 8)).setWidth 8 = high ∧ (((lane <<< 8) ||| (lane >>> 8)) >>> 8).setWidth 8 = low := by
  constructor
  · apply BitVec.eq_of_getLsbD_eq
    intro i bound
    simp [-BitVec.getLsbD_eq_getElem, bound, bytes.high i]
  · apply BitVec.eq_of_getLsbD_eq
    intro i bound
    simp [-BitVec.getLsbD_eq_getElem, bound, bytes.low i bound, bytes.high, show 8 + i < 16 by omega]

theorem low_nibble (value : Byte) (i : Nat) : (value &&& 0x0f).getLsbD i = (decide (i < 4) && value.getLsbD i) := by
  have mask : ∀ k < 8, (0x0f#8).getLsbD k = decide (k < 4) := by decide
  rw [BitVec.getLsbD_and, show (0x0f : Byte) = 0x0f#8 from rfl]
  by_cases bound : i < 8
  · rw [mask i bound, Bool.and_comm]
  · rw [BitVec.getLsbD_of_ge value i (by omega), Bool.and_false, Bool.false_and]

theorem shifted_lane (lane : BitVec 16) (low high : Byte) (bytes : Lane lane low high) :
    (lane.sshiftRight 4).setWidth 8 &&& (0x0f : Byte) = low >>> 4 ∧
    ((lane.sshiftRight 4) >>> 8).setWidth 8 &&& (0x0f : Byte) = high >>> 4 := by
  constructor
  · apply BitVec.eq_of_getLsbD_eq
    intro i bound
    rw [low_nibble, BitVec.getLsbD_setWidth, BitVec.getLsbD_sshiftRight, BitVec.getLsbD_ushiftRight]
    by_cases nibble : i < 4
    · simp [-BitVec.getLsbD_eq_getElem, bound, nibble, bytes.low (4 + i) (by omega), show 4 + i < 16 by omega,
        show i < 16 by omega]
    · simp [nibble, BitVec.getLsbD_of_ge low (4 + i) (by omega)]
  · apply BitVec.eq_of_getLsbD_eq
    intro i bound
    rw [low_nibble, BitVec.getLsbD_setWidth, BitVec.getLsbD_ushiftRight, BitVec.getLsbD_sshiftRight, BitVec.getLsbD_ushiftRight]
    have place : 4 + (8 + i) = 8 + (4 + i) := by omega
    by_cases nibble : i < 4
    · simp [-BitVec.getLsbD_eq_getElem, bound, nibble, place, bytes.high, show 8 + (4 + i) < 16 by omega,
        show 8 + i < 16 by omega]
    · simp [nibble, BitVec.getLsbD_of_ge high (4 + i) (by omega)]

theorem even_short (short : List Byte) (even : short.length % 2 = 0) (notPair : ∀ a b rest, short = a :: b :: rest → False) :
    short = [] := by
  cases short with
  | nil => rfl
  | cons a tail =>
      cases tail with
      | nil => simp at even
      | cons b rest => exact absurd rfl (notPair a b rest)

theorem lanes_packed8 (bytes : List Byte) (even : bytes.length % 2 = 0) :
    (mapLanes (fun lane => (lane <<< 8) ||| (lane >>> 8)) bytes).map (· ^^^ 0x80) = packed8 bytes := by
  fun_induction packed8 bytes with
  | case1 q i rest ih =>
      have swapped := swapped_lane (i ++ q) q i (lane_of_bytes q i)
      rw [mapLanes, List.map_cons, List.map_cons, ih (by simp only [List.length_cons] at even; omega), swapped.1, swapped.2]
  | case2 short notPair =>
      rw [even_short short even notPair]
      rfl

-- One byte for each pair of nibbles, as the compaction leaves them.
def nibblePairs : List Byte → List Byte
  | first :: second :: rest => (second ||| (first <<< 4)) :: nibblePairs rest
  | _ => []

def nibblePair (nibbles : List Byte) (k : Nat) : Byte := nibbles.getD (2 * k + 1) 0 ||| (nibbles.getD (2 * k) 0 <<< 4)

theorem nibble_pairs_indexed (nibbles : List Byte) :
    nibblePairs nibbles = (List.range (nibbles.length / 2)).map (nibblePair nibbles) := by
  fun_induction nibblePairs nibbles with
  | case1 first second rest ih =>
      have half : (first :: second :: rest).length / 2 = rest.length / 2 + 1 := by simp only [List.length_cons]; omega
      rw [half, List.range_succ_eq_map, List.map_cons, List.map_map, ih]
      rfl
  | case2 short notPair =>
      have small : short.length / 2 = 0 := by
        cases short with
        | nil => rfl
        | cons a tail =>
            cases tail with
            | nil => simp
            | cons b rest => exact absurd rfl (notPair a b rest)
      rw [small]
      rfl

-- The compaction in place: what it has still to read lies behind what it has written.
theorem pack_nibbles_upto (nibbles : List Byte) (count : Nat) (room : 2 * count ≤ nibbles.length) :
    (List.range count).foldl (fun buf k => buf.set k (nibblePair buf k)) nibbles =
      (List.range count).map (nibblePair nibbles) ++ nibbles.drop count := by
  induction count with
  | zero => rfl
  | succ count ih =>
      have written : ((List.range count).map (nibblePair nibbles)).length = count := by
        rw [List.length_map, List.length_range]
      have unread : ∀ j, count ≤ j →
          ((List.range count).map (nibblePair nibbles) ++ nibbles.drop count).getD j 0 = nibbles.getD j 0 := by
        intro j behind
        rw [List.getD_eq_getElem?_getD, List.getElem?_append_right (by rw [written]; exact behind), written,
          List.getElem?_drop, Nat.add_sub_cancel' behind, ← List.getD_eq_getElem?_getD]
      have here : nibblePair ((List.range count).map (nibblePair nibbles) ++ nibbles.drop count) count = nibblePair nibbles count := by
        rw [nibblePair, unread _ (by omega), unread _ (by omega), nibblePair]
      rw [List.range_succ, List.foldl_append, ih (by omega), List.foldl_cons, List.foldl_nil, here, List.map_append,
        List.map_singleton, List.append_assoc]
      rw [List.set_append_right _ _ (by rw [written]), written, Nat.sub_self, List.drop_eq_getElem_cons (by omega)]
      rfl

theorem pack_nibbles_pairs (nibbles : List Byte) (size : nibbles.length = 64) : (packNibbles nibbles).take 32 = nibblePairs nibbles := by
  have packed := pack_nibbles_upto nibbles 32 (by omega)
  have written : ((List.range 32).map (nibblePair nibbles)).length = 32 := by rw [List.length_map, List.length_range]
  rw [nibble_pairs_indexed, size]
  change ((List.range 32).foldl (fun buf k => buf.set k (nibblePair buf k)) nibbles).take 32 = _
  rw [packed, List.take_left' written]

theorem lanes_packed4 (bytes : List Byte) (even : bytes.length % 2 = 0) :
    nibblePairs ((mapLanes (fun lane => lane.sshiftRight 4) (bytes.map (· ^^^ 0x80))).map (· &&& 0x0f)) = packed4 bytes := by
  have high : ∀ value : Byte, value >>> 4 <<< 4 = value &&& 0xf0 := by decide +kernel
  fun_induction packed4 bytes with
  | case1 q i rest ih =>
      have shifted := shifted_lane ((i ^^^ 0x80) ++ (q ^^^ 0x80)) _ _ (lane_of_bytes (q ^^^ 0x80) (i ^^^ 0x80))
      rw [List.map_cons, List.map_cons, mapLanes, List.map_cons, List.map_cons, nibblePairs,
        ih (by simp only [List.length_cons] at even; omega), shifted.1, shifted.2, high]
  | case2 short notPair =>
      rw [even_short short even notPair]
      rfl

theorem quantize8_avx512_from (bytes i : Nat) (buf : List Byte) (size : buf.length = bytes) (inside : i ≤ bytes) :
    quantize8Avx512From bytes i buf = quantize8ScalarFrom bytes i buf := by
  fun_induction quantize8Avx512From bytes i buf with
  | case1 i buf more samples iq ih =>
      have whole : samples.length = 64 := by
        simp only [samples, List.length_take, List.length_drop]
        omega
      have chunk : iq.map (· ^^^ 0x80) = packed8 samples := lanes_packed8 samples (by rw [whole])
      have sized : (packed8 samples).length = 64 := by
        rw [← chunk, List.length_map, map_lanes_length, whole]
      rw [chunk] at ih ⊢
      rw [ih (by rw [store_at_length _ _ _ (by omega), size]) (by omega)]
      exact (quantize8_turns bytes i 32 buf size (by omega)).symm
  | case2 i buf done =>
      have front : (buf.take i).length = i := by rw [List.length_take]; omega
      have tail := quantize8_tail (buf.take i) (buf.drop i) (bytes - i) 0
      rw [front, List.take_append_drop, Nat.add_sub_cancel' inside, Nat.add_zero] at tail
      exact tail.symm

theorem quantize4_avx512_from (bytes input output : Nat) (buf : List Byte) (size : buf.length = bytes) (behind : output ≤ input) :
    quantize4Avx512From bytes input output buf = quantize4ScalarFrom bytes input output buf := by
  fun_induction quantize4Avx512From bytes input output buf with
  | case1 input output buf more samples quantized ih =>
      have whole : ((buf.drop input).take 64).length = 64 := by
        rw [List.length_take, List.length_drop]
        omega
      have chunk : (packNibbles quantized).take 32 = packed4 ((buf.drop input).take 64) := by
        rw [pack_nibbles_pairs _ (by simp only [quantized, samples, List.length_map, map_lanes_length, whole])]
        exact lanes_packed4 _ (by rw [whole])
      have sized : ((packNibbles quantized).take 32).length ≤ 32 := List.length_take_le 32 _
      have stored := store_at_length buf ((packNibbles quantized).take 32) output (by omega)
      rw [ih (by rw [stored, size]) (by omega), chunk]
      exact (quantize4_turns bytes input output 32 buf size behind (by omega)).symm
  | case2 input output buf done => rfl

-- Both versions leave every buffer as the scalar loops do, whatever its length.
theorem avx512_equals_scalar (buf : List Byte) :
    quantize8Avx512 buf buf.length = quantize8Scalar buf buf.length ∧
    quantize4Avx512 buf buf.length = quantize4Scalar buf buf.length :=
  ⟨quantize8_avx512_from buf.length 0 buf rfl (Nat.zero_le _), quantize4_avx512_from buf.length 0 0 buf rfl (Nat.le_refl _)⟩

end SpectralLine
