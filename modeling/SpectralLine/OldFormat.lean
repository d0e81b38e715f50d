import SpectralLine.RecordedSpectrum
import Mathlib.Data.List.Forall2

set_option autoImplicit false

namespace SpectralLine

open Checked

-- A frame of the old receiver and the same frame as recorded now: the length
-- field counts the header too, the Q,I bytes are quantised to 8 bits.
structure Upgraded (old new : WrittenFrame) : Prop where
  header : readBack new.1 = { readBack old.1 with frameBytes := vdifHeaderBytes + new.2.length }
  length : (readBack old.1).frameBytes = old.2.length
  bits : (readBack old.1).bitsPerSample = 8
  some_ : 0 < old.2.length
  whole : old.2.length % 4 = 0
  payload : ∃ avx512, new.2 = quantize 8 avx512 old.2 old.2.length

theorem old_pairs_samples (payload : List Byte) : oldPairs (fun byte => (byte.toNat : Int) - 128) payload = samplesOf 8 payload := by
  have same : ∀ byte : Byte, component 8 byte = (byte.toNat : Int) - 128 := fun byte => Int.fdiv_one _
  fun_induction samplesOf 8 payload with
  | case1 q i rest ih => rw [oldPairs, ih, same, same]
  | case2 short notPair => rw [oldPairs]; exact notPair

section

variable {𝕜 : Type} [Field 𝕜]

theorem upgraded_decodes (old new : WrittenFrame) (upgraded : Upgraded old new) :
    (decodeOldFrame "offset-binary" (readBack old.1) old.2 : Except String (List (𝕜 × 𝕜))) = decodeFrame (readBack new.1) new.2 := by
  obtain ⟨avx512, payload⟩ := upgraded.payload
  have decoded := decoded_payload old.2 8 upgraded.whole (Or.inl rfl)
  have all : old.2.length * 8 / 8 = old.2.length := Nat.mul_div_cancel _ (by decide)
  have size := quantize_length (BitVec.ofNat 8 8) false old.2
  rw [all, List.take_of_length_le size.le] at decoded
  have bits : (readBack new.1).bitsPerSample = 8 := by rw [upgraded.header]; exact upgraded.bits
  have even : ¬ old.2.length % 2 ≠ 0 := by
    have whole := upgraded.whole
    omega
  have pairs : decodeOldQiPayload old.2 "offset-binary" = .ok (samplesOf 8 old.2) := by
    rw [decodeOldQiPayload, if_neg even, if_pos rfl, old_pairs_samples]
  have now : decodeComplexPayload (quantize 8 false old.2 old.2.length) 8 = .ok (samplesOf 8 old.2) := decoded
  rw [decodeOldFrame, bind_clear _ _ _ (not_not.mpr upgraded.bits), bind_value _ _ _ pairs, decodeFrame, bits, payload, quantize_scalar,
    bind_value _ _ _ now]
  rfl

end

structure Agree (a b : ReadState) : Prop where
  stats : b.stats = a.stats
  format : b.expectedFormat = a.expectedFormat
  previous : b.previousPacketId = a.previousPacketId
  yielded : List.Forall₂ (fun x y => ∃ old new, Upgraded old new ∧ x = (readBack old.1, old.2) ∧ y = (readBack new.1, new.2))
    a.yielded b.yielded

section

variable (limit : Option Nat) (cadence : Nat)

def oldReading : ReadOptions where
  framesPerSecond := cadence
  maxFrames := limit
  frameLengthIncludesHeader := false

def newReading : ReadOptions where
  framesPerSecond := cadence
  maxFrames := limit

-- A whole frame at the front of the stream.
theorem whole_turn (options : ReadOptions) (path : String) (st : ReadState) (frame : WrittenFrame) (rest : List Byte)
    (size : payloadBytesOf options (readBack frame.1) = frame.2.length) :
    readTurn options path st (frame.bytes ++ rest) =
      match checkHeader options path (readBack frame.1) with
      | .error message => .raised message st
      | .ok () =>
          match takeFrame options path st.counted (readBack frame.1) frame.2 with
          | .error message => .raised message st.counted
          | .ok next => .advanced next rest := by
  have header : frame.1.header.toList.length = vdifHeaderBytes := Vector.length_toList
  have head : (frame.bytes ++ rest).take vdifHeaderBytes = frame.1.header.toList := by
    rw [WrittenFrame.bytes, List.append_assoc, ← header, List.take_left]
  have tail : (frame.bytes ++ rest).drop vdifHeaderBytes = frame.2 ++ rest := by
    rw [WrittenFrame.bytes, List.append_assoc, ← header, List.drop_left]
  have nonempty : vdifHeaderBytes ≠ 0 := by decide
  cases checked : checkHeader options path (readBack frame.1) with
  | error message =>
      simp only [readTurn, head, header, if_neg nonempty, ne_eq, not_true_eq_false, if_false, parse_read_back, checked]
  | ok passed =>
      cases taken : takeFrame options path st.counted (readBack frame.1) frame.2 <;>
        simp only [readTurn, head, tail, header, if_neg nonempty, ne_eq, not_true_eq_false, if_false, parse_read_back, checked,
          readPayload, size, List.take_left, List.drop_left, taken]

theorem check_agree (path : String) (old new : WrittenFrame) (upgraded : Upgraded old new) :
    checkHeader (newReading limit cadence) path (readBack new.1) = checkHeader (oldReading limit cadence) path (readBack old.1) := by
  have oldLong : ¬ (readBack old.1).frameBytes < 1 := by
    rw [upgraded.length]
    exact Nat.not_lt.mpr upgraded.some_
  have newLong : ¬ vdifHeaderBytes + new.2.length < vdifHeaderBytes := by omega
  simp only [checkHeader, upgraded.header, oldReading, newReading, if_true, Bool.false_eq_true, if_false, if_neg oldLong, if_neg newLong]
  rfl

theorem take_frame_agree (path : String) (a b : ReadState) (agree : Agree a b) (old new : WrittenFrame) (upgraded : Upgraded old new) :
    (∃ message, takeFrame (oldReading limit cadence) path a.counted (readBack old.1) old.2 = .error message ∧
      takeFrame (newReading limit cadence) path b.counted (readBack new.1) new.2 = .error message) ∨
    ∃ c d, takeFrame (oldReading limit cadence) path a.counted (readBack old.1) old.2 = .ok c ∧
      takeFrame (newReading limit cadence) path b.counted (readBack new.1) new.2 = .ok d ∧ Agree c d := by
  have header := upgraded.header
  have packet : (readBack new.1).packetId (newReading limit cadence).framesPerSecond =
      (readBack old.1).packetId (oldReading limit cadence).framesPerSecond := by
    rw [header]
    rfl
  have format : ((readBack new.1).bitsPerSample, (readBack new.1).complexData, (readBack new.1).threadId) =
      ((readBack old.1).bitsPerSample, (readBack old.1).complexData, (readBack old.1).threadId) := by rw [header]
  have invalid : (readBack new.1).invalid = (readBack old.1).invalid := by rw [header]
  have counted : b.counted.stats = a.counted.stats ∧ b.counted.expectedFormat = a.counted.expectedFormat ∧
      b.counted.previousPacketId = a.counted.previousPacketId := by
    simp only [ReadState.counted, agree.stats, agree.format, agree.previous, and_self]
  rw [takeFrame, takeFrame]
  simp only [format, packet, invalid, counted.1, counted.2.1, counted.2.2]
  by_cases same : a.counted.expectedFormat = none ∨ a.counted.expectedFormat =
      some ((readBack old.1).bitsPerSample, (readBack old.1).complexData, (readBack old.1).threadId)
  · rw [if_pos same, if_pos same]
    right
    by_cases flagged : (readBack old.1).invalid = true
    · rw [if_pos flagged, if_pos flagged]
      exact ⟨_, _, rfl, rfl, rfl, rfl, rfl, agree.yielded⟩
    · rw [if_neg flagged, if_neg flagged]
      refine ⟨_, _, rfl, rfl, rfl, rfl, rfl, ?_⟩
      exact List.rel_append agree.yielded (List.Forall₂.cons ⟨old, new, upgraded, rfl, rfl⟩ List.Forall₂.nil)
  · rw [if_neg same, if_neg same]
    exact Or.inl ⟨_, rfl, rfl⟩

theorem counted_agree (a b : ReadState) (agree : Agree a b) : Agree a.counted b.counted := by
  refine ⟨?_, agree.format, agree.previous, agree.yielded⟩
  simp only [ReadState.counted, agree.stats]

theorem limit_agree (a b : ReadState) (agree : Agree a b) :
    limitReached (newReading limit cadence) b = limitReached (oldReading limit cadence) a := by
  simp only [limitReached, newReading, oldReading, agree.stats]

abbrev FramePair := WrittenFrame × WrittenFrame

def oldContent (pairs : List FramePair) : List Byte := pairs.flatMap fun pair => pair.1.bytes

def newContent (pairs : List FramePair) : List Byte := pairs.flatMap fun pair => pair.2.bytes

theorem read_file_agree (path : String) (pairs : List FramePair) (upgraded : ∀ pair ∈ pairs, Upgraded pair.1 pair.2)
    (a b : ReadState) (agree : Agree a b) :
    let oldRead := readFile (oldReading limit cadence) path a (oldContent pairs)
    let newRead := readFile (newReading limit cadence) path b (newContent pairs)
    Agree oldRead.1 newRead.1 ∧ newRead.2 = oldRead.2 := by
  dsimp only
  induction pairs generalizing a b with
  | nil =>
      rw [readFile, readFile, limit_agree limit cadence a b agree]
      split
      · exact ⟨agree, rfl⟩
      · exact ⟨agree, rfl⟩
  | cons pair rest ih =>
      obtain ⟨old, new⟩ := pair
      have here := upgraded (old, new) List.mem_cons_self
      have later := fun pair member => upgraded pair (List.mem_cons_of_mem _ member)
      have oldSize : payloadBytesOf (oldReading limit cadence) (readBack old.1) = old.2.length := here.length
      have newSize : payloadBytesOf (newReading limit cadence) (readBack new.1) = new.2.length := by
        simp only [payloadBytesOf, newReading, if_true, here.header, Nat.add_sub_cancel_left]
      have oldTurn := whole_turn (oldReading limit cadence) path a old (oldContent rest) oldSize
      have newTurn := whole_turn (newReading limit cadence) path b new (newContent rest) newSize
      rw [check_agree limit cadence path old new here] at newTurn
      rw [oldContent, newContent, List.flatMap_cons, List.flatMap_cons, ← oldContent, ← newContent, readFile, readFile,
        limit_agree limit cadence a b agree]
      split
      · exact ⟨agree, rfl⟩
      · cases checked : checkHeader (oldReading limit cadence) path (readBack old.1) with
        | error message =>
            rw [checked] at oldTurn newTurn
            rw [oldTurn, newTurn]
            exact ⟨agree, rfl⟩
        | ok passed =>
            rw [checked] at oldTurn newTurn
            rcases take_frame_agree limit cadence path a b agree old new here with
              ⟨message, oldTaken, newTaken⟩ | ⟨c, d, oldTaken, newTaken, next⟩
            · simp only [oldTaken] at oldTurn
              simp only [newTaken] at newTurn
              rw [oldTurn, newTurn]
              exact ⟨counted_agree a b agree, rfl⟩
            · simp only [oldTaken] at oldTurn
              simp only [newTaken] at newTurn
              rw [oldTurn, newTurn]
              exact ih later c d next

abbrev PairFile := String × List FramePair

def oldFiles (files : List PairFile) : List (String × List Byte) := files.map fun file => (file.1, oldContent file.2)

def newFiles (files : List PairFile) : List (String × List Byte) := files.map fun file => (file.1, newContent file.2)

theorem iter_agree (files : List PairFile) (upgraded : ∀ file ∈ files, ∀ pair ∈ file.2, Upgraded pair.1 pair.2) (a b : ReadState)
    (agree : Agree a b) :
    let oldRead := iterVdifFrames (oldReading limit cadence) a (oldFiles files)
    let newRead := iterVdifFrames (newReading limit cadence) b (newFiles files)
    Agree oldRead.1 newRead.1 ∧ newRead.2 = oldRead.2 := by
  dsimp only
  induction files generalizing a b with
  | nil => exact ⟨agree, rfl⟩
  | cons file rest ih =>
      obtain ⟨next, outcome⟩ := read_file_agree limit cadence file.1 file.2 (upgraded file List.mem_cons_self) a b agree
      rw [oldFiles, newFiles, List.map_cons, List.map_cons, ← oldFiles, ← newFiles, iterVdifFrames, iterVdifFrames]
      generalize readFile (oldReading limit cadence) file.1 a (oldContent file.2) = oldRead at next outcome ⊢
      generalize readFile (newReading limit cadence) file.1 b (newContent file.2) = newRead at next outcome ⊢
      obtain ⟨c, oldFailure⟩ := oldRead
      obtain ⟨d, newFailure⟩ := newRead
      cases outcome
      cases oldFailure with
      | some message => exact ⟨next, rfl⟩
      | none =>
          dsimp only
          rw [limit_agree limit cadence c d next]
          split
          · exact ⟨next, rfl⟩
          · exact ih (fun file member => upgraded file (List.mem_cons_of_mem _ member)) c d next

end

section

variable {𝕜 : Type} [Field 𝕜]

theorem map_m_agree {A B C : Type} (f : A → Except String C) (g : B → Except String C) (xs : List A) (ys : List B)
    (same : List.Forall₂ (fun x y => f x = g y) xs ys) : xs.mapM f = ys.mapM g := by
  induction same with
  | nil => rfl
  | cons here _ ih => rw [List.mapM_cons, List.mapM_cons, here, ih]

theorem finish_bits (ops : SpectrumOps 𝕜) (o : SpectrumOptions 𝕜) (window : List 𝕜) (sums : List 𝕜 × Nat) (stats : ReadStats)
    (xs ys : List (VdifHeader × List Byte))
    (yielded : List.Forall₂ (fun x y => ∃ old new, Upgraded old new ∧ x = (readBack old.1, old.2) ∧ y = (readBack new.1, new.2)) xs ys) :
    (finishSpectrum ops o window (xs.head?.map Prod.fst) sums stats >>= fun result => pure { result with bitsPerSample := 8 }) =
      finishSpectrum ops o window (ys.head?.map Prod.fst) sums stats := by
  cases yielded with
  | nil => rfl
  | cons here _ =>
      obtain ⟨old, new, upgraded, rfl, rfl⟩ := here
      simp only [List.head?_cons, Option.map_some, finishSpectrum, upgraded.header, upgraded.bits]
      by_cases empty : sums.2 = 0
      · rw [bind_stop _ _ _ empty]
        rfl
      · rw [bind_clear _ _ _ empty]
        rfl

theorem average_agree (ops : SpectrumOps 𝕜) (o : SpectrumOptions 𝕜) (files : List PairFile)
    (upgraded : ∀ file ∈ files, ∀ pair ∈ file.2, Upgraded pair.1 pair.2) (block : ¬ checkFft o.nfft) :
    (averageSpectrum ops o false (decodeOldFrame "offset-binary") (oldFiles files) >>= fun result =>
      pure { result with bitsPerSample := 8 }) =
      averageSpectrum ops o true decodeFrame (newFiles files) := by
  have fresh : Agree {} {} := ⟨rfl, rfl, rfl, List.Forall₂.nil⟩
  obtain ⟨agree, outcome⟩ := iter_agree (o.maxFrames.map Int.toNat) o.framesPerSecond files upgraded {} {} fresh
  rw [average_plain ops o false _ _ block, average_plain ops o true _ _ block, plainSpectrum, plainSpectrum]
  cases spectrumWindow ops o.windowName o.nfft.toNat with
  | error reason => rfl
  | ok window =>
      rw [bind_value _ _ window rfl, bind_value _ _ window rfl]
      change Agree (iterVdifFrames (o.reading false) {} (oldFiles files)).1 (iterVdifFrames (o.reading true) {} (newFiles files)).1 at agree
      change (iterVdifFrames (o.reading true) {} (newFiles files)).2 = (iterVdifFrames (o.reading false) {} (oldFiles files)).2 at outcome
      generalize iterVdifFrames (o.reading false) {} (oldFiles files) = oldRead at agree outcome ⊢
      generalize iterVdifFrames (o.reading true) {} (newFiles files) = newRead at agree outcome ⊢
      have decoded : (oldRead.1.yielded.mapM fun frame => (decodeOldFrame "offset-binary" frame.1 frame.2 : Except String (List (𝕜 × 𝕜)))) =
          newRead.1.yielded.mapM fun frame => decodeFrame frame.1 frame.2 := by
        refine map_m_agree _ _ _ _ (agree.yielded.imp ?_)
        rintro _ _ ⟨old, new, pair, rfl, rfl⟩
        exact upgraded_decodes old new pair
      dsimp only
      rw [decoded, outcome, agree.stats]
      cases newRead.1.yielded.mapM fun frame => (decodeFrame frame.1 frame.2 : Except String (List (𝕜 × 𝕜))) with
      | error reason => rfl
      | ok chunks =>
          rw [bind_value _ _ chunks rfl, bind_value _ _ chunks rfl]
          cases oldRead.2 with
          | some message => rfl
          | none => exact finish_bits ops o window _ _ _ _ agree.yielded

variable [LinearOrder 𝕜]

-- The old script on an old recording and the new one on its upgrade give the
-- same spectrum, averages and counts, or stop with the same message.
theorem old_spectra_agree (ops : SpectrumOps 𝕜) (o : SpectrumOptions 𝕜) (files : List PairFile)
    (upgraded : ∀ file ∈ files, ∀ pair ∈ file.2, Upgraded pair.1 pair.2) (cadence : 0 < o.framesPerSecond) :
    calculateOldSpectrum ops (oldFiles files) o "offset-binary" = calculateSpectrum ops (newFiles files) o := by
  have size : (oldFiles files).length = (newFiles files).length := by rw [oldFiles, newFiles, List.length_map, List.length_map]
  rw [calculateOldSpectrum, calculateSpectrum, size]
  by_cases nothing : (newFiles files).length = 0
  · rw [bind_stop _ _ _ nothing, bind_stop _ _ _ nothing]
  rw [bind_clear _ _ _ nothing, bind_clear _ _ _ nothing]
  by_cases rate : o.sampleRateHz ≤ 0
  · rw [bind_stop _ _ _ rate, bind_stop _ _ _ rate]
  rw [bind_clear _ _ _ rate, bind_clear _ _ _ rate, bind_clear _ _ _ cadence.ne']
  by_cases block : checkFft o.nfft
  · rw [bind_stop _ _ _ block, bind_stop _ _ _ block]
  rw [bind_clear _ _ _ block, bind_clear _ _ _ block]
  by_cases limit : checkFrames o.maxFrames
  · rw [bind_stop _ _ _ limit, bind_stop _ _ _ limit]
  rw [bind_clear _ _ _ limit, bind_clear _ _ _ limit]
  exact average_agree ops o files upgraded block

end

def qiFrame : WrittenFrame :=
  (⟨Vector.ofFn fun i => if i.val = 8 then 1 else if i.val = 15 then 0x9c else 0⟩, [0x80, 0x90, 0x70, 0x80, 0x00, 0xff, 0x81, 0x7f])

def iqFrame : WrittenFrame :=
  (⟨Vector.ofFn fun i => if i.val = 8 then 5 else if i.val = 15 then 0x9c else 0⟩, [0x10, 0x00, 0x00, 0xf0, 0x7f, 0x80, 0xff, 0x01])

theorem qi_frame_upgraded : Upgraded qiFrame iqFrame where
  header := by decide +kernel
  length := by decide +kernel
  bits := by decide +kernel
  some_ := by decide
  whole := by decide
  payload := ⟨false, by decide +kernel⟩

theorem old_spectra_agree_sample :
    let ops : SpectrumOps ℝ :=
      { hanning := fun n => List.replicate n 0
        fft := fun block =>
          match block with
          | [a, b] => [(a.1 + b.1, a.2 + b.2), (a.1 - b.1, a.2 - b.2)]
          | other => other
        decibel := fun psd => 10 * Real.logb 10 (max psd (2 ^ (-1022 : Int))) }
    let o : SpectrumOptions ℝ :=
      { sampleRateHz := 256000000, nfft := 2, maxFrames := some 2048, framesPerSecond := 62500, windowName := "rectangular" }
    calculateOldSpectrum ops (oldFiles [("a.vdif", [(qiFrame, iqFrame)])]) o "offset-binary" =
      calculateSpectrum ops (newFiles [("a.vdif", [(qiFrame, iqFrame)])]) o := by
  intro ops o
  refine old_spectra_agree ops o [("a.vdif", [(qiFrame, iqFrame)])] ?_ (by decide)
  intro file inFiles pair inPairs
  rw [List.mem_singleton.mp inFiles, List.mem_singleton] at inPairs
  rw [inPairs]
  exact qi_frame_upgraded

end SpectralLine
