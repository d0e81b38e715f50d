import SpectralLine.VdifReader
import Mathlib.Data.List.Chain

set_option autoImplicit false

namespace SpectralLine

-- What the Python parser makes of a header the C++ side wrote.
def readBack (h : VDIF) : VdifHeader := headerOfWords (unpackWord h.header.toList)

theorem parse_read_back (h : VDIF) : parseVdifHeader h.header.toList = .ok (readBack h) := by
  simp [parseVdifHeader, vdifHeaderBytes, readBack]

theorem unpack_word (h : VDIF) (index : Fin 8) : unpackWord h.header.toList index.val = h.getWord index := by
  have inside : 4 * index.val + 3 < 32 := by omega
  have byte : ∀ k (bound : k < 32), h.header.toList.getD k 0 = h.header[k] := by
    intro k bound
    rw [List.getD_eq_getElem?_getD]
    simp [bound]
  rw [unpackWord, byte _ (by omega), byte _ (by omega), byte _ (by omega), byte _ (by omega)]
  rfl

theorem read_back_packet_id (h : VDIF) : (readBack h).packetId 62500 = h.packetId := by
  have seconds := unpack_word h 0
  have frame := unpack_word h 1
  simp only [Fin.val_zero, Fin.val_one] at seconds frame
  simp only [readBack, headerOfWords, VdifHeader.packetId, seconds, frame, VDIF.packetId, VDIF.getSecondsFromEpoch,
    VDIF.getFrameNumber, BitField.getBits, BitVec.ushiftRight_zero, VDIF.framesPerSecond]

-- The C++ invalid flag is the reader's legacy flag and the other way round.
theorem read_back_legacy (h : VDIF) : (readBack h).legacy = h.getInvalid := by
  have word := unpack_word h 0
  simp only [Fin.val_zero] at word
  simp only [readBack, headerOfWords, word, VDIF.getInvalid, VDIF.getFlag, BitField.getBits]

theorem read_back_invalid (h : VDIF) : (readBack h).invalid = h.getLegacy := by
  have word := unpack_word h 0
  simp only [Fin.val_zero] at word
  simp only [readBack, headerOfWords, word, VDIF.getLegacy, VDIF.getFlag, BitField.getBits]

def roundTripOptions : ReadOptions where
  framesPerSecond := 62500
  maxFrames := none

abbrev WrittenFrame := VDIF × List Byte

def WrittenFrame.bytes (frame : WrittenFrame) : List Byte := frame.1.header.toList ++ frame.2

-- A frame the reader takes as a sample frame of the given format.
structure Readable (format : Nat × Bool × Nat) (frame : WrittenFrame) : Prop where
  invalid : (readBack frame.1).invalid = false
  legacy : (readBack frame.1).legacy = false
  length : (readBack frame.1).frameBytes = vdifHeaderBytes + frame.2.length
  complex : (readBack frame.1).complexData = true
  single : (readBack frame.1).log2Channels = 0
  same : ((readBack frame.1).bitsPerSample, (readBack frame.1).complexData, (readBack frame.1).threadId) = format

structure ReadableRun (format : Nat × Bool × Nat) (frames : List WrittenFrame) : Prop where
  each : ∀ frame ∈ frames, Readable format frame
  steps : frames.IsChain fun a b => b.1.packetId = a.1.packetId + 1

def afterRun (format : Nat × Bool × Nat) (frames : List WrittenFrame) : ReadState where
  stats := { framesRead := frames.length, framesUsed := frames.length }
  expectedFormat := if frames = [] then none else some format
  previousPacketId := frames.getLast?.map fun frame => frame.1.packetId
  yielded := frames.map fun frame => (readBack frame.1, frame.2)

theorem count_sequence_next (stats : ReadStats) (packetId : Nat) :
    countSequence stats (some packetId) (packetId + 1) = stats := by
  simp [countSequence]

theorem take_frame_run (format : Nat × Bool × Nat) (path : String) (past : List WrittenFrame) (frame : WrittenFrame)
    (run : ReadableRun format (past ++ [frame])) :
    takeFrame roundTripOptions path (afterRun format past).counted (readBack frame.1) frame.2 =
      .ok (afterRun format (past ++ [frame])) := by
  have good := run.each frame (by simp)
  have accepted : (afterRun format past).counted.expectedFormat = none ∨
      (afterRun format past).counted.expectedFormat = some format := by
    by_cases first : past = []
    · exact Or.inl (by simp [ReadState.counted, afterRun, first])
    · exact Or.inr (by simp [ReadState.counted, afterRun, first])
  have sequence : countSequence (afterRun format past).counted.stats (afterRun format past).counted.previousPacketId
      frame.1.packetId = (afterRun format past).counted.stats := by
    cases last : past.getLast? with
    | none => simp [ReadState.counted, afterRun, last, countSequence]
    | some previous =>
        have next : frame.1.packetId = previous.1.packetId + 1 :=
          (List.isChain_append.mp run.steps).2.2 previous last frame rfl
        simp only [ReadState.counted, afterRun, last, Option.map_some, next, count_sequence_next]
  have id : (readBack frame.1).packetId roundTripOptions.framesPerSecond = frame.1.packetId := read_back_packet_id frame.1
  rw [takeFrame]
  simp only [good.same, if_pos accepted, id, sequence, good.invalid, Bool.false_eq_true, if_false]
  simp [ReadState.counted, afterRun]

theorem read_turn_run (format : Nat × Bool × Nat) (path : String) (past : List WrittenFrame) (frame : WrittenFrame)
    (rest : List Byte) (run : ReadableRun format (past ++ [frame])) :
    readTurn roundTripOptions path (afterRun format past) (frame.bytes ++ rest) =
      .advanced (afterRun format (past ++ [frame])) rest := by
  have good := run.each frame (by simp)
  have size : frame.1.header.toList.length = vdifHeaderBytes := Vector.length_toList
  have head : (frame.bytes ++ rest).take vdifHeaderBytes = frame.1.header.toList := by
    rw [WrittenFrame.bytes, List.append_assoc, ← size, List.take_left]
  have tail : (frame.bytes ++ rest).drop vdifHeaderBytes = frame.2 ++ rest := by
    rw [WrittenFrame.bytes, List.append_assoc, ← size, List.drop_left]
  have checked : checkHeader roundTripOptions path (readBack frame.1) = .ok () := by
    have long : ¬ (readBack frame.1).frameBytes < vdifHeaderBytes := by rw [good.length]; omega
    simp [checkHeader, roundTripOptions, good.legacy, good.complex, good.single, long]
  have payload : payloadBytesOf roundTripOptions (readBack frame.1) = frame.2.length := by
    simp [payloadBytesOf, roundTripOptions, good.length]
  have nonempty : vdifHeaderBytes ≠ 0 := by decide
  simp only [readTurn, head, tail, size, if_neg nonempty, ne_eq, not_true_eq_false, if_false, parse_read_back, checked,
    readPayload, payload, List.take_left, List.drop_left, take_frame_run format path past frame run]

theorem read_turn_legacy (path : String) (st : ReadState) (frame : WrittenFrame) (rest : List Byte)
    (legacy : (readBack frame.1).legacy = true) : ∃ message,
    readTurn roundTripOptions path st (frame.bytes ++ rest) = .raised message st := by
  have size : frame.1.header.toList.length = vdifHeaderBytes := Vector.length_toList
  have head : (frame.bytes ++ rest).take vdifHeaderBytes = frame.1.header.toList := by
    rw [WrittenFrame.bytes, List.append_assoc, ← size, List.take_left]
  have nonempty : vdifHeaderBytes ≠ 0 := by decide
  refine ⟨s!"{path}: legacy 16-byte VDIF headers are unsupported", ?_⟩
  simp only [readTurn, head, size, if_neg nonempty, ne_eq, not_true_eq_false, if_false, parse_read_back, checkHeader,
    legacy, if_true]

theorem readable_begins (format : Nat × Bool × Nat) (past rest : List WrittenFrame)
    (run : ReadableRun format (past ++ rest)) : ReadableRun format past :=
  ⟨fun frame member => run.each frame (List.mem_append_left rest member), (List.isChain_append.mp run.steps).1⟩

theorem limit_never_reached (st : ReadState) : limitReached roundTripOptions st = false := rfl

theorem read_file_run (format : Nat × Bool × Nat) (path : String) (past chunk : List WrittenFrame) (tail : List Byte)
    (run : ReadableRun format (past ++ chunk)) :
    readFile roundTripOptions path (afterRun format past) (chunk.flatMap WrittenFrame.bytes ++ tail) =
      readFile roundTripOptions path (afterRun format (past ++ chunk)) tail := by
  induction chunk generalizing past with
  | nil => simp
  | cons frame rest ih =>
      have whole : past ++ frame :: rest = (past ++ [frame]) ++ rest := by simp
      rw [whole] at run ⊢
      have one := readable_begins format (past ++ [frame]) rest run
      rw [← ih (past ++ [frame]) run, List.flatMap_cons, List.append_assoc, readFile, limit_never_reached]
      simp only [Bool.false_eq_true, if_false]
      rw [read_turn_run format path past frame _ one]

theorem read_file_whole (format : Nat × Bool × Nat) (path : String) (past chunk : List WrittenFrame)
    (run : ReadableRun format (past ++ chunk)) :
    readFile roundTripOptions path (afterRun format past) (chunk.flatMap WrittenFrame.bytes) =
      (afterRun format (past ++ chunk), none) := by
  have read := read_file_run format path past chunk [] run
  rw [List.append_nil] at read
  rw [read, readFile, limit_never_reached]
  rfl

-- Part boundaries fall between frames, so the parts read as one sequence.
theorem read_parts_run (format : Nat × Bool × Nat) (past : List WrittenFrame) (groups : List (List WrittenFrame))
    (paths : List (String × List Byte)) (content : paths.map Prod.snd = groups.map (List.flatMap WrittenFrame.bytes))
    (run : ReadableRun format (past ++ groups.flatten)) :
    iterVdifFrames roundTripOptions (afterRun format past) paths = (afterRun format (past ++ groups.flatten), none) := by
  induction groups generalizing past paths with
  | nil =>
      obtain rfl : paths = [] := List.map_eq_nil_iff.mp content
      simp [iterVdifFrames]
  | cons group groups ih =>
      cases paths with
      | nil => simp at content
      | cons file paths =>
          simp only [List.map_cons, List.cons.injEq] at content
          rw [List.flatten_cons, ← List.append_assoc] at run ⊢
          rw [iterVdifFrames, content.1,
            read_file_whole format file.1 past group (readable_begins format (past ++ group) _ run)]
          simp only [limit_never_reached, Bool.false_eq_true, if_false]
          exact ih (past ++ group) paths content.2 run

-- One frame marked legacy after a readable run ends the reading with an error.
theorem read_parts_legacy (format : Nat × Bool × Nat) (past good rest : List WrittenFrame) (bad : WrittenFrame)
    (groups : List (List WrittenFrame)) (paths : List (String × List Byte))
    (content : paths.map Prod.snd = groups.map (List.flatMap WrittenFrame.bytes))
    (order : groups.flatten = good ++ bad :: rest) (run : ReadableRun format (past ++ good))
    (legacy : (readBack bad.1).legacy = true) :
    (iterVdifFrames roundTripOptions (afterRun format past) paths).2.isSome = true := by
  induction groups generalizing past good paths with
  | nil => simp at order
  | cons group groups ih =>
      cases paths with
      | nil => simp at content
      | cons file paths =>
          simp only [List.map_cons, List.cons.injEq] at content
          rw [List.flatten_cons] at order
          rw [iterVdifFrames, content.1]
          rcases List.append_eq_append_iff.mp order with ⟨later, goodSplit, order⟩ | ⟨inside, groupSplit, remaining⟩
          · rw [goodSplit, ← List.append_assoc] at run
            rw [read_file_whole format file.1 past group (readable_begins format (past ++ group) _ run)]
            simp only [limit_never_reached, Bool.false_eq_true, if_false]
            exact ih (past ++ group) later paths content.2 order run
          · cases inside with
            | nil =>
                rw [List.append_nil] at groupSplit
                subst groupSplit
                rw [read_file_whole format file.1 past group run]
                simp only [limit_never_reached, Bool.false_eq_true, if_false]
                exact ih (past ++ group) [] paths content.2 remaining.symm (by rwa [List.append_nil])
            | cons first more =>
                obtain rfl : bad = first := (List.cons.inj remaining).1
                obtain ⟨message, raised⟩ := read_turn_legacy file.1 (afterRun format (past ++ good)) bad
                  (more.flatMap WrittenFrame.bytes) legacy
                rw [groupSplit, List.flatMap_append, read_file_run format file.1 past good _ run, List.flatMap_cons, readFile,
                  limit_never_reached]
                simp only [Bool.false_eq_true, if_false]
                rw [raised]
                rfl

end SpectralLine
