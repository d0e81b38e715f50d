import SpectralLine.Recording
import SpectralLine.Batching

set_option autoImplicit false

namespace SpectralLine

section

variable (env : RecorderEnv) (cfg : StreamConfig)

def batchFrames (batch : PacketBatch cfg.batchsize) : List (List Byte) :=
  (List.finRange cfg.batchsize).map fun i => frameRecord env cfg (batch.hdrs i) (batch.buffer i)

theorem batch_frames_flatten (batch : PacketBatch cfg.batchsize) : (batchFrames env cfg batch).flatten = batchRecord env cfg batch := by
  rw [batch_record_frames, List.flatMap_def, batchFrames]

theorem part_bytes_frames (batches : List (PacketBatch cfg.batchsize)) :
    partBytes env cfg batches = (batches.flatMap (batchFrames env cfg)).flatten := by
  induction batches with
  | nil => rfl
  | cons batch rest ih =>
      rw [List.flatMap_cons, List.flatten_append, batch_frames_flatten, ← ih]
      rfl

-- batch_bytes of recoder.
def recordedBatchBytes : Nat := cfg.batchsize * (VDIF.headerSize + framePayload * cfg.basebandBits.toNat / 8) % 2 ^ 64

def RotationDue (r : Recorder) : Prop := r.currentSize ≠ 0 ∧ maxFileSize < (r.currentSize + recordedBatchBytes cfg) % 2 ^ 64

instance (r : Recorder) : Decidable (RotationDue cfg r) := inferInstanceAs (Decidable (_ ∧ _))

def rotated (r : Recorder) : Recorder := if RotationDue cfg r then (createFile env r).1 else r

theorem recoder_rotated (r : Recorder) (batch : PacketBatch cfg.batchsize) :
    recoder env cfg r batch = (writeAllIov env (rotated env cfg r) (batchIov env cfg batch)).1 := rfl

-- The part indices opened so far, and the part that was open at every rotation
-- that create_file refused.
structure RecorderTrace where
  recorder : Recorder
  opened : List Nat
  refused : List Nat

def openedAt (r : Recorder) : List Nat := if RotationDue cfg r ∧ (createFile env r).2 = none then [r.fileIndex] else []

def refusedAt (r : Recorder) : List Nat := if RotationDue cfg r ∧ (createFile env r).2 ≠ none then r.fd.toList else []

def RecorderTrace.step (trace : RecorderTrace) (batch : PacketBatch cfg.batchsize) : RecorderTrace where
  recorder := recoder env cfg trace.recorder batch
  opened := trace.opened ++ openedAt env cfg trace.recorder
  refused := trace.refused ++ refusedAt env cfg trace.recorder

-- The constructor has opened the first part.
def RecorderTrace.start : RecorderTrace := ⟨(createFile env Recorder.initial).1, [Recorder.initial.fileIndex], []⟩

def recordTrace (batches : List (PacketBatch cfg.batchsize)) : RecorderTrace :=
  batches.foldl (RecorderTrace.step env cfg) (RecorderTrace.start env)

theorem record_trace_recorder (batches : List (PacketBatch cfg.batchsize)) :
    (recordTrace env cfg batches).recorder = batches.foldl (recoder env cfg) (createFile env Recorder.initial).1 := by
  induction batches using List.reverseRecOn with
  | nil => rfl
  | append_singleton past batch ih => rw [recordTrace, List.foldl_append, List.foldl_append, ← ih]; rfl

theorem record_traced (batches : List (PacketBatch cfg.batchsize)) (started : env.createFile 0 = .ok ()) :
    record env cfg batches = .ok (recordTrace env cfg batches).recorder := by
  have opened : baseband env (cfg.ringId / 2) = .ok (createFile env Recorder.initial).1 := by
    simp only [baseband, createFile, Recorder.initial, started]
  rw [record, opened, record_trace_recorder]
  rfl

theorem create_file_refused (r : Recorder) (refused : (createFile env r).2 ≠ none) :
    (createFile env r).1.fd = r.fd ∧ (createFile env r).1.currentSize = r.currentSize ∧
      (createFile env r).1.fileIndex = r.fileIndex ∧ (createFile env r).1.parts = r.parts := by
  rw [createFile] at refused ⊢
  cases answer : env.createFile r.opens with
  | error message => exact ⟨rfl, rfl, rfl, rfl⟩
  | ok => exact absurd (by rw [answer]) refused

-- The size counter is exact below 2^64 bytes; a longer file has met a refused
-- rotation before, and wraps.
structure PartsOf (r : Recorder) (closed : List (List (PacketBatch cfg.batchsize)))
    (current : List (PacketBatch cfg.batchsize)) : Prop where
  parts : r.parts = (closed ++ [current]).map (partBytes env cfg)
  descriptor : r.fd = some closed.length
  index : r.fileIndex = (closed.length + 1) % 2 ^ 32
  size : r.currentSize = current.length * batchRecordBytes cfg % 2 ^ 64

-- Within the limit, a single batch, or kept open by a refused rotation.
def Limited (refused : List Nat) (k : Nat) (group : List (PacketBatch cfg.batchsize)) : Prop :=
  group.length * batchRecordBytes cfg ≤ maxFileSize ∨ group.length = 1 ∨ k ∈ refused

structure RotationInv (written : List (PacketBatch cfg.batchsize)) (trace : RecorderTrace)
    (closed : List (List (PacketBatch cfg.batchsize))) (current : List (PacketBatch cfg.batchsize)) : Prop where
  layout : PartsOf env cfg trace.recorder closed current
  order : written = closed.flatten ++ current
  opened : trace.opened = List.range (closed.length + 1)
  limited : ∀ (k : Nat) group, (closed ++ [current])[k]? = some group → Limited cfg trace.refused k group

theorem limited_more (refused more : List Nat) (k : Nat) (group : List (PacketBatch cfg.batchsize))
    (limited : Limited cfg refused k group) : Limited cfg (refused ++ more) k group := by
  rcases limited with small | single | met
  · exact Or.inl small
  · exact Or.inr (Or.inl single)
  · exact Or.inr (Or.inr (List.mem_append_left more met))

theorem limited_append (refused : List Nat) (groups : List (List (PacketBatch cfg.batchsize))) (last : List (PacketBatch cfg.batchsize))
    (earlier : ∀ (k : Nat) group, groups[k]? = some group → Limited cfg refused k group)
    (final : Limited cfg refused groups.length last) (k : Nat) (group : List (PacketBatch cfg.batchsize))
    (found : (groups ++ [last])[k]? = some group) : Limited cfg refused k group := by
  by_cases before : k < groups.length
  · rw [List.getElem?_append_left before] at found
    exact earlier k group found
  · rw [List.getElem?_append_right (Nat.le_of_not_lt before)] at found
    have only : k - groups.length = 0 ∧ last = group := by
      simpa using List.getElem?_eq_some_iff.mp found
    have same : k = groups.length := by omega
    rw [same, ← only.2]
    exact final

theorem batch_record_bytes_pos : 0 < batchRecordBytes cfg := Nat.mul_pos cfg.batchsizePos (Nat.add_pos_left (by decide) _)

theorem batch_record_bytes_small (count : cfg.batchsize < 2 ^ 31) : batchRecordBytes cfg < 2 ^ 45 := by
  have frame : VDIF.frameBytes cfg.basebandBits ≤ 8224 := by
    rcases cfg.basebandBitsAccepted with bits | bits | bits <;> rw [bits] <;> decide
  calc batchRecordBytes cfg ≤ cfg.batchsize * 8224 := Nat.mul_le_mul_left _ frame
    _ < 2 ^ 45 := by omega

theorem recorded_batch_bytes (count : cfg.batchsize < 2 ^ 31) : recordedBatchBytes cfg = batchRecordBytes cfg :=
  Nat.mod_eq_of_lt (Nat.lt_trans (batch_record_bytes_small cfg count) (by decide))

theorem write_batch_parts (progress : env.Progress) (r : Recorder) (closed : List (List (PacketBatch cfg.batchsize)))
    (current : List (PacketBatch cfg.batchsize)) (batch : PacketBatch cfg.batchsize)
    (layout : PartsOf env cfg r closed current) :
    PartsOf env cfg (writeAllIov env r (batchIov env cfg batch)).1 closed (current ++ [batch]) := by
  have size : r.currentSize < 2 ^ 64 := by
    rw [layout.size]
    exact Nat.mod_lt _ (by decide)
  obtain ⟨writes, done⟩ := write_all_iov_ok env progress r (batchIov env cfg batch) closed.length layout.descriptor size
    (batch_iov_nonempty env cfg batch)
  rw [done]
  constructor
  · have joined : partBytes env cfg (current ++ [batch]) = partBytes env cfg current ++ (batchIov env cfg batch).flatten := by
      simp [partBytes, batchRecord]
    simp only [layout.parts, List.map_append, List.map_singleton, joined]
    rw [← List.length_map (partBytes env cfg), modify_last]
  · exact layout.descriptor
  · exact layout.index
  · have record := batch_record_length env cfg batch
    rw [batchRecord] at record
    simp only [layout.size, record, Nat.mod_add_mod, List.length_append, List.length_singleton, Nat.succ_mul]

theorem create_file_parts (r : Recorder) (closed : List (List (PacketBatch cfg.batchsize)))
    (current : List (PacketBatch cfg.batchsize)) (layout : PartsOf env cfg r closed current)
    (created : (createFile env r).2 = none) (few : closed.length + 1 < 2 ^ 32) :
    r.fileIndex = closed.length + 1 ∧ PartsOf env cfg (createFile env r).1 (closed ++ [current]) [] := by
  have index : r.fileIndex = closed.length + 1 := by rw [layout.index, Nat.mod_eq_of_lt few]
  refine ⟨index, ?_⟩
  rw [createFile] at created ⊢
  cases answer : env.createFile r.opens with
  | error message =>
      rw [answer] at created
      cases created
  | ok =>
      have fresh : ¬ r.fileIndex < r.parts.length := by
        rw [index, layout.parts, List.length_map, List.length_append, List.length_singleton]
        exact Nat.lt_irrefl _
      constructor
      · change openTrunc r.parts r.fileIndex = _
        rw [openTrunc, if_neg fresh, layout.parts, @List.map_append _ _ _ (closed ++ [current])]
        rfl
      · simp only [index, List.length_append, List.length_singleton]
      · simp only [index, List.length_append, List.length_singleton]
      · simp

-- A batch goes to the open part only while it fits there.
theorem limited_not_due (count : cfg.batchsize < 2 ^ 31) (r : Recorder) (closed : List (List (PacketBatch cfg.batchsize)))
    (current : List (PacketBatch cfg.batchsize)) (batch : PacketBatch cfg.batchsize) (refused : List Nat)
    (layout : PartsOf env cfg r closed current) (limited : Limited cfg refused closed.length current)
    (notDue : ¬ RotationDue cfg r) : Limited cfg refused closed.length (current ++ [batch]) := by
  have grown : (current ++ [batch]).length * batchRecordBytes cfg = current.length * batchRecordBytes cfg + batchRecordBytes cfg := by
    rw [List.length_append, List.length_singleton, Nat.succ_mul]
  have positive := batch_record_bytes_pos cfg
  have small := batch_record_bytes_small cfg count
  have limit : maxFileSize = 2 ^ 33 := rfl
  rw [RotationDue, layout.size, recorded_batch_bytes cfg count] at notDue
  rcases limited with within | single | met
  · by_cases empty : current.length = 0
    · exact Or.inr (Or.inl (by rw [List.length_append, List.length_singleton, empty]))
    · have nonempty := Nat.mul_pos (Nat.pos_of_ne_zero empty) positive
      left
      rw [grown]
      omega
  · rw [single, Nat.one_mul] at notDue
    left
    rw [grown, single, Nat.one_mul]
    omega
  · exact Or.inr (Or.inr met)

theorem rotation_step (progress : env.Progress) (count : cfg.batchsize < 2 ^ 31) (written : List (PacketBatch cfg.batchsize))
    (trace : RecorderTrace) (closed : List (List (PacketBatch cfg.batchsize))) (current : List (PacketBatch cfg.batchsize))
    (batch : PacketBatch cfg.batchsize) (inv : RotationInv env cfg written trace closed current)
    (few : (trace.step env cfg batch).opened.length ≤ 2 ^ 32) :
    ∃ closed current, RotationInv env cfg (written ++ [batch]) (trace.step env cfg batch) closed current := by
  have kept : ∀ (k : Nat) group, (closed ++ [current])[k]? = some group →
      Limited cfg (trace.refused ++ refusedAt env cfg trace.recorder) k group :=
    fun k group found => limited_more cfg _ _ k group (inv.limited k group found)
  have earlier : ∀ (k : Nat) group, closed[k]? = some group → Limited cfg (trace.refused ++ refusedAt env cfg trace.recorder) k group := by
    intro k group found
    exact kept k group (List.getElem?_append_left (List.getElem?_eq_some_iff.mp found).1 ▸ found)
  have appended : written ++ [batch] = closed.flatten ++ (current ++ [batch]) := by rw [inv.order, List.append_assoc]
  by_cases due : RotationDue cfg trace.recorder
  · by_cases created : (createFile env trace.recorder).2 = none
    · have opens : openedAt env cfg trace.recorder = [trace.recorder.fileIndex] := if_pos ⟨due, created⟩
      have room : closed.length + 1 < 2 ^ 32 := by
        simp only [RecorderTrace.step, opens, inv.opened, List.length_append, List.length_range, List.length_singleton] at few
        omega
      obtain ⟨index, fresh⟩ := create_file_parts env cfg trace.recorder closed current inv.layout created room
      have stored := write_batch_parts env cfg progress _ _ [] batch fresh
      refine ⟨closed ++ [current], [batch], ?_, ?_, ?_, limited_append cfg _ _ _ kept (Or.inr (Or.inl rfl))⟩
      · rw [RecorderTrace.step, recoder_rotated, rotated, if_pos due]
        exact stored
      · rw [appended, List.flatten_append, List.flatten_singleton, List.append_assoc]
      · rw [RecorderTrace.step, opens, inv.opened, index, List.length_append, List.length_singleton, List.range_succ (n := closed.length + 1)]
    · have opens : openedAt env cfg trace.recorder = [] := if_neg fun both => created both.2
      have refuses : refusedAt env cfg trace.recorder = trace.recorder.fd.toList := if_pos ⟨due, created⟩
      obtain ⟨descriptor, size, index, parts⟩ := create_file_refused env trace.recorder created
      have layout : PartsOf env cfg (createFile env trace.recorder).1 closed current :=
        ⟨parts.trans inv.layout.parts, descriptor.trans inv.layout.descriptor, index.trans inv.layout.index, size.trans inv.layout.size⟩
      refine ⟨closed, current ++ [batch], ?_, appended, ?_, limited_append cfg _ _ _ earlier (Or.inr (Or.inr ?_))⟩
      · rw [RecorderTrace.step, recoder_rotated, rotated, if_pos due]
        exact write_batch_parts env cfg progress _ _ _ batch layout
      · rw [RecorderTrace.step, opens, inv.opened, List.append_nil]
      · rw [RecorderTrace.step, refuses, inv.layout.descriptor]
        exact List.mem_append_right _ List.mem_cons_self
  · have opens : openedAt env cfg trace.recorder = [] := if_neg fun both => due both.1
    have open_ : Limited cfg trace.refused closed.length current := by
      refine inv.limited closed.length current ?_
      rw [List.getElem?_append_right (Nat.le_refl _), Nat.sub_self]
      rfl
    have fits := limited_not_due env cfg count trace.recorder closed current batch _ inv.layout open_ due
    refine ⟨closed, current ++ [batch], ?_, appended, ?_, limited_append cfg _ _ _ earlier (limited_more cfg _ _ _ _ fits)⟩
    · rw [RecorderTrace.step, recoder_rotated, rotated, if_neg due]
      exact write_batch_parts env cfg progress _ _ _ batch inv.layout
    · rw [RecorderTrace.step, opens, inv.opened, List.append_nil]

theorem trace_opened_begins (past : List (PacketBatch cfg.batchsize)) (batch : PacketBatch cfg.batchsize) :
    (recordTrace env cfg past).opened.length ≤ (recordTrace env cfg (past ++ [batch])).opened.length := by
  rw [recordTrace, recordTrace, List.foldl_append]
  exact (List.prefix_append _ _).length_le

theorem trace_opened_length (batches : List (PacketBatch cfg.batchsize)) :
    (recordTrace env cfg batches).opened.length ≤ batches.length + 1 := by
  induction batches using List.reverseRecOn with
  | nil => exact Nat.le_refl 1
  | append_singleton past batch ih =>
      have one : ∀ r, (openedAt env cfg r).length ≤ 1 := by
        intro r
        rw [openedAt]
        by_cases opens : RotationDue cfg r ∧ (createFile env r).2 = none
        · rw [if_pos opens, List.length_singleton]
        · rw [if_neg opens]
          exact Nat.zero_le 1
      rw [recordTrace, List.foldl_append, List.length_append, List.length_singleton]
      calc ((recordTrace env cfg past).opened ++ openedAt env cfg (recordTrace env cfg past).recorder).length
          = (recordTrace env cfg past).opened.length + (openedAt env cfg (recordTrace env cfg past).recorder).length := List.length_append
        _ ≤ past.length + 1 + 1 := Nat.add_le_add ih (one _)

theorem rotation_run (started : env.createFile 0 = .ok ()) (progress : env.Progress) (count : cfg.batchsize < 2 ^ 31)
    (batches : List (PacketBatch cfg.batchsize)) (few : (recordTrace env cfg batches).opened.length ≤ 2 ^ 32) :
    ∃ closed current, RotationInv env cfg batches (recordTrace env cfg batches) closed current := by
  induction batches using List.reverseRecOn with
  | nil =>
      have first : PartsOf env cfg (RecorderTrace.start env).recorder [] [] := by
        rw [RecorderTrace.start, createFile]
        simp only [Recorder.initial, started]
        exact ⟨rfl, rfl, rfl, (Nat.zero_mul _).symm ▸ rfl⟩
      exact ⟨[], [], first, rfl, rfl, limited_append cfg _ [] [] (fun k group found => absurd found (by simp)) (Or.inl (by simp))⟩
  | append_singleton past batch ih =>
      obtain ⟨closed, current, inv⟩ := ih ((trace_opened_begins env cfg past batch).trans few)
      rw [recordTrace, List.foldl_append] at few ⊢
      exact rotation_step env cfg progress count past _ closed current batch inv few

theorem parts_flatten (groups : List (List (PacketBatch cfg.batchsize))) :
    (groups.map (partBytes env cfg)).flatten = partBytes env cfg groups.flatten := by
  induction groups with
  | nil => rfl
  | cons group rest ih => rw [List.map_cons, List.flatten_cons, ih, List.flatten_cons, partBytes, partBytes, partBytes, List.flatMap_append]

structure RotationKeeps (batches : List (PacketBatch cfg.batchsize)) (trace : RecorderTrace)
    (groups : List (List (PacketBatch cfg.batchsize))) : Prop where
  content : trace.recorder.parts.flatten = (batches.flatMap (batchFrames env cfg)).flatten
  batchesWhole : groups.flatten = batches ∧ trace.recorder.parts = groups.map fun group => (group.flatMap (batchFrames env cfg)).flatten
  indices : trace.opened = List.range trace.recorder.parts.length
  limited : ∀ (k : Nat) part group, trace.recorder.parts[k]? = some part → groups[k]? = some group →
    part.length ≤ maxFileSize ∨ group.length = 1 ∨ k ∈ trace.refused

-- Whatever the later create_file calls answer, the parts in index order are
-- the batches in order, each batch in one part.
theorem rotation_loses_nothing (batches : List (PacketBatch cfg.batchsize)) (started : env.createFile 0 = .ok ())
    (progress : env.Progress) (count : cfg.batchsize < 2 ^ 31) (few : (recordTrace env cfg batches).opened.length ≤ 2 ^ 32) :
    record env cfg batches = .ok (recordTrace env cfg batches).recorder ∧
      (∃ groups, RotationKeeps env cfg batches (recordTrace env cfg batches) groups) ∧
      ∀ r : Recorder, (createFile env r).2 ≠ none → (createFile env r).1.fd = r.fd ∧
        (createFile env r).1.currentSize = r.currentSize ∧ (createFile env r).1.fileIndex = r.fileIndex := by
  obtain ⟨closed, current, inv⟩ := rotation_run env cfg started progress count batches few
  have order : (closed ++ [current]).flatten = batches := by rw [inv.order, List.flatten_append, List.flatten_singleton]
  have parts := inv.layout.parts
  have frames : (closed ++ [current]).map (partBytes env cfg) =
      (closed ++ [current]).map fun group => (group.flatMap (batchFrames env cfg)).flatten :=
    List.map_congr_left fun group _ => part_bytes_frames env cfg group
  refine ⟨record_traced env cfg batches started, ⟨closed ++ [current], ?_, ⟨order, parts.trans frames⟩, ?_, ?_⟩, ?_⟩
  · rw [parts, parts_flatten, order, part_bytes_frames]
  · rw [inv.opened, parts, List.length_map, List.length_append, List.length_singleton]
  · intro k part group found member
    rw [parts, List.getElem?_map, member] at found
    obtain rfl : partBytes env cfg group = part := Option.some.inj found
    rw [part_bytes_length]
    exact inv.limited k group member
  · intro r refused
    obtain ⟨descriptor, size, index, _⟩ := create_file_refused env r refused
    exact ⟨descriptor, size, index⟩

end

def fullDisk : RecorderEnv where
  iovMax := 1024
  iovMaxPos := by decide
  avx512 := false
  createFile := fun n => if n = 0 then .ok () else .error "No space left on device"
  writev := fun _ => .written 100

def emptyBatches : List (PacketBatch sampleStream.batchsize) := [allocatePacketBatch 16, allocatePacketBatch 16]

theorem rotation_loses_nothing_sample :
    ∃ groups, RotationKeeps fullDisk sampleStream emptyBatches (recordTrace fullDisk sampleStream emptyBatches) groups :=
  (rotation_loses_nothing fullDisk sampleStream emptyBatches rfl (fun _ => ⟨100, by decide, rfl⟩) (by decide)
    ((trace_opened_length fullDisk sampleStream emptyBatches).trans (by decide))).2.1

end SpectralLine
