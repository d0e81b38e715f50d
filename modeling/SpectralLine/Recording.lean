import SpectralLine.Recorder

set_option autoImplicit false

namespace SpectralLine

def RecorderEnv.Progress (env : RecorderEnv) : Prop := ∀ n, ∃ count, 0 < count ∧ env.writev n = .written count

structure RecorderEnv.Working (env : RecorderEnv) : Prop where
  created : ∀ n, env.createFile n = .ok ()
  progress : env.Progress

theorem consume_nonempty (remaining : Nat) (iov : List (List Byte)) (filled : ∀ entry ∈ iov, entry ≠ []) :
    ∀ entry ∈ consumeIov remaining iov, entry ≠ [] := by
  induction iov generalizing remaining with
  | nil => exact filled
  | cons head rest ih =>
      have tail : ∀ entry ∈ rest, entry ≠ [] := fun entry member => filled entry (List.mem_cons_of_mem head member)
      rw [consumeIov]
      by_cases finished : remaining = 0
      · rw [if_pos finished]
        exact filled
      by_cases whole : head.length ≤ remaining
      · rw [if_neg finished, if_pos whole]
        exact ih (remaining - head.length) tail
      · rw [if_neg finished, if_neg whole]
        intro entry member
        rcases List.mem_cons.mp member with rfl | later
        · exact List.drop_eq_nil_iff.not.mpr (by omega)
        · exact tail entry later

theorem written_nonempty (env : RecorderEnv) (iov : List (List Byte)) (count : Nat) (some : iov ≠ [])
    (filled : ∀ entry ∈ iov, entry ≠ []) (positive : 0 < count) : 0 < (writtenBytes env iov count).length := by
  cases iov with
  | nil => exact absurd rfl some
  | cons head rest =>
      have nonempty : 0 < head.length := List.length_pos_iff.mpr (filled head (List.mem_cons_self ..))
      have limit := env.iovMaxPos
      obtain ⟨most, same⟩ : ∃ most, env.iovMax = most + 1 := ⟨env.iovMax - 1, by omega⟩
      rw [writtenBytes, same, List.take_succ_cons, List.flatten_cons, List.length_take, List.length_append]
      omega

-- write_all_iov appends the whole vector to the open part, however the kernel
-- splits it.
theorem write_all_iov_ok (env : RecorderEnv) (progress : env.Progress) (r : Recorder) (iov : List (List Byte)) (part : Nat)
    (opened : r.fd = some part) (size : r.currentSize < 2 ^ 64) (filled : ∀ entry ∈ iov, entry ≠ []) :
    ∃ writes, writeAllIov env r iov = ({ r with
      currentSize := (r.currentSize + iov.flatten.length) % 2 ^ 64
      parts := r.parts.modify part (· ++ iov.flatten)
      writes }, true) := by
  fun_induction writeAllIov env r iov with
  | case1 r iov done =>
      obtain rfl := List.isEmpty_iff.mp done
      refine ⟨r.writes, ?_⟩
      have same : (fun bytes : List Byte => bytes ++ []) = id := funext List.append_nil
      simp only [List.flatten_nil, List.length_nil, Nat.add_zero, Nat.mod_eq_of_lt size, same, List.modify_id]
  | case2 r iov more current count result descriptor stuck =>
      obtain ⟨most, positive, outcome⟩ := progress r.writes
      rw [result] at outcome
      cases outcome
      have some := written_nonempty env iov count (fun empty => more (by rw [empty]; rfl)) filled positive
      omega
  | case3 r iov more current count result descriptor moving ih =>
      have same : current = part := Option.some.inj (descriptor.symm.trans opened)
      subst same
      have split := List.prefix_iff_eq_append.mp (written_begins env iov count)
      obtain ⟨writes, rest⟩ := ih opened (Nat.mod_lt _ (by decide)) (consume_nonempty _ iov filled)
      refine ⟨writes, ?_⟩
      rw [rest, consume_flatten, List.length_drop]
      have inside := (written_begins env iov count).length_le
      simp only [Recorder.append, List.modify_modify_eq, Nat.mod_add_mod]
      have bytes : (fun old : List Byte => old ++ iov.flatten) =
          (· ++ iov.flatten.drop (writtenBytes env iov count).length) ∘ (· ++ writtenBytes env iov count) := by
        funext old
        rw [Function.comp_apply, List.append_assoc, split]
      rw [bytes]
      have total : r.currentSize + (writtenBytes env iov count).length +
          (iov.flatten.length - (writtenBytes env iov count).length) = r.currentSize + iov.flatten.length := by omega
      rw [total]
  | case4 r iov more stuck =>
      obtain ⟨count, positive, outcome⟩ := progress r.writes
      exact (stuck part count opened outcome).elim

theorem part_closed (closed size batch total limit : Nat) (few : closed * limit + size ≤ 2 * total)
    (full : limit < size + batch) : closed * limit + limit + batch ≤ 2 * (total + batch) := by omega

theorem modify_last (parts : List (List Byte)) (last : List Byte) (change : List Byte → List Byte) :
    (parts ++ [last]).modify parts.length change = parts ++ [change last] := by
  induction parts with
  | nil => rfl
  | cons part rest ih => exact congrArg (part :: ·) ih

section

variable (env : RecorderEnv) (cfg : StreamConfig)

def frameRecord (header : VDIF) (packet : Packet) : List Byte := (frameIov env cfg header packet).flatten

def batchRecord (batch : PacketBatch cfg.batchsize) : List Byte := (batchIov env cfg batch).flatten

def batchRecordBytes : Nat := cfg.batchsize * VDIF.frameBytes cfg.basebandBits

theorem frame_payload_length (packet : Packet) :
    ((quantize cfg.basebandBits env.avx512 packet.payload framePayload).take
      (framePayload * cfg.basebandBits.toNat / 8)).length = framePayload * cfg.basebandBits.toNat / 8 := by
  have size : framePayload = packet.payload.length := packet.size.symm
  have kept : framePayload * cfg.basebandBits.toNat / 8 ≤ framePayload := by
    rcases cfg.basebandBitsAccepted with bits | bits | bits <;> rw [bits] <;> decide
  rw [List.length_take, Nat.min_eq_left]
  rw [size, quantize_length, ← size]
  exact kept

theorem frame_record_length (header : VDIF) (packet : Packet) :
    (frameRecord env cfg header packet).length = VDIF.frameBytes cfg.basebandBits := by
  simp only [frameRecord, frameIov, List.flatten_cons, List.flatten_nil, List.append_nil, List.length_append,
    frame_payload_length, Vector.length_toList]
  rfl

theorem batch_record_frames (batch : PacketBatch cfg.batchsize) : batchRecord env cfg batch =
    (List.finRange cfg.batchsize).flatMap fun i => frameRecord env cfg (batch.hdrs i) (batch.buffer i) := by
  rw [batchRecord, batchIov]
  generalize List.finRange cfg.batchsize = slots
  induction slots with
  | nil => rfl
  | cons i rest ih => rw [List.flatMap_cons, List.flatMap_cons, List.flatten_append, ih, frameRecord]

theorem batch_record_length (batch : PacketBatch cfg.batchsize) :
    (batchRecord env cfg batch).length = batchRecordBytes cfg := by
  simp [batch_record_frames, List.length_flatMap, frame_record_length, batchRecordBytes]

theorem batch_iov_nonempty (batch : PacketBatch cfg.batchsize) : ∀ entry ∈ batchIov env cfg batch, entry ≠ [] := by
  intro entry member
  obtain ⟨i, _, inFrame⟩ := List.mem_flatMap.mp member
  have positive : 0 < framePayload * cfg.basebandBits.toNat / 8 := by
    rcases cfg.basebandBitsAccepted with bits | bits | bits <;> rw [bits] <;> decide
  rcases List.mem_cons.mp inFrame with rfl | payload
  · exact List.ne_nil_of_length_pos (by rw [Vector.length_toList]; decide)
  · obtain rfl := List.mem_singleton.mp payload
    exact List.ne_nil_of_length_pos (by rw [frame_payload_length]; exact positive)

def partBytes (group : List (PacketBatch cfg.batchsize)) : List Byte := group.flatMap (batchRecord env cfg)

theorem part_bytes_length (group : List (PacketBatch cfg.batchsize)) :
    (partBytes env cfg group).length = group.length * batchRecordBytes cfg := by
  simp [partBytes, List.length_flatMap, batch_record_length]

-- The parts are runs of whole batches, the last one still open.
structure Layout (r : Recorder) (closed : List (List (PacketBatch cfg.batchsize)))
    (current : List (PacketBatch cfg.batchsize)) : Prop where
  parts : r.parts = (closed ++ [current]).map (partBytes env cfg)
  descriptor : r.fd = some closed.length
  index : r.fileIndex = closed.length + 1
  size : r.currentSize = current.length * batchRecordBytes cfg

-- `few` bounds the number of closed parts: a part is closed only when it and
-- its successor's first batch exceed the limit.
structure RecorderInv (written : List (PacketBatch cfg.batchsize)) (r : Recorder)
    (closed : List (List (PacketBatch cfg.batchsize))) (current : List (PacketBatch cfg.batchsize)) : Prop where
  layout : Layout env cfg r closed current
  order : written = closed.flatten ++ current
  few : closed.length * maxFileSize + r.currentSize ≤ 2 * (written.length * batchRecordBytes cfg)

theorem create_file_layout (works : env.Working) (r : Recorder) (closed : List (List (PacketBatch cfg.batchsize)))
    (current : List (PacketBatch cfg.batchsize)) (layout : Layout env cfg r closed current)
    (few : closed.length + 2 < 2 ^ 32) : Layout env cfg (createFile env r).1 (closed ++ [current]) [] := by
  rw [createFile, works.created]
  constructor
  · have fresh : ¬ r.fileIndex < r.parts.length := by rw [layout.index, layout.parts]; simp
    change openTrunc r.parts r.fileIndex = _
    rw [openTrunc, if_neg fresh, layout.parts, @List.map_append _ _ _ (closed ++ [current])]
    rfl
  · simp only [layout.index, List.length_append, List.length_singleton]
  · simp only [layout.index, List.length_append, List.length_singleton]
    exact Nat.mod_eq_of_lt few
  · simp

theorem write_batch_layout (works : env.Working) (r : Recorder) (closed : List (List (PacketBatch cfg.batchsize)))
    (current : List (PacketBatch cfg.batchsize)) (batch : PacketBatch cfg.batchsize)
    (layout : Layout env cfg r closed current) (bounded : (current.length + 1) * batchRecordBytes cfg < 2 ^ 64) :
    Layout env cfg (writeAllIov env r (batchIov env cfg batch)).1 closed (current ++ [batch]) := by
  have size := layout.size
  have grown : current.length * batchRecordBytes cfg + batchRecordBytes cfg = (current.length + 1) * batchRecordBytes cfg :=
    (Nat.succ_mul _ _).symm
  obtain ⟨writes, done⟩ := write_all_iov_ok env works.progress r (batchIov env cfg batch) closed.length layout.descriptor
    (by omega) (batch_iov_nonempty env cfg batch)
  rw [done]
  constructor
  · have joined : partBytes env cfg (current ++ [batch]) = partBytes env cfg current ++ (batchIov env cfg batch).flatten := by
      simp [partBytes, batchRecord]
    simp only [layout.parts, List.map_append, List.map_singleton, joined]
    rw [← List.length_map (partBytes env cfg), modify_last]
  · exact layout.descriptor
  · exact layout.index
  · have record := batch_record_length env cfg batch
    rw [batchRecord] at record
    simp only [size, record, grown, List.length_append, List.length_singleton]
    exact Nat.mod_eq_of_lt bounded

theorem recoder_inv (works : env.Working) (written : List (PacketBatch cfg.batchsize)) (r : Recorder)
    (closed : List (List (PacketBatch cfg.batchsize))) (current : List (PacketBatch cfg.batchsize))
    (batch : PacketBatch cfg.batchsize) (inv : RecorderInv env cfg written r closed current)
    (bounded : (written.length + 1) * batchRecordBytes cfg ≤ 2 ^ 60) :
    ∃ closed current, RecorderInv env cfg (written ++ [batch]) (recoder env cfg r batch) closed current := by
  have few := inv.few
  have size := inv.layout.size
  have limit : maxFileSize = 2 ^ 33 := rfl
  rw [limit] at few
  have total : (written.length + 1) * batchRecordBytes cfg = written.length * batchRecordBytes cfg + batchRecordBytes cfg :=
    Nat.succ_mul _ _
  have grown : (current.length + 1) * batchRecordBytes cfg = current.length * batchRecordBytes cfg + batchRecordBytes cfg :=
    Nat.succ_mul _ _
  have bytes : cfg.batchsize * (VDIF.headerSize + framePayload * cfg.basebandBits.toNat / 8) % 2 ^ 64 =
      batchRecordBytes cfg := Nat.mod_eq_of_lt (by change batchRecordBytes cfg < _; omega)
  have after : (r.currentSize + batchRecordBytes cfg) % 2 ^ 64 = r.currentSize + batchRecordBytes cfg :=
    Nat.mod_eq_of_lt (by omega)
  rw [recoder, bytes, after]
  by_cases full : r.currentSize ≠ 0 ∧ maxFileSize < r.currentSize + batchRecordBytes cfg
  · rw [if_pos full]
    have closing := part_closed closed.length r.currentSize (batchRecordBytes cfg) _ maxFileSize inv.few full.2
    have created := create_file_layout env cfg works r closed current inv.layout (by omega)
    have stored := write_batch_layout env cfg works _ _ [] batch created (by simp; omega)
    refine ⟨closed ++ [current], [batch], stored, ?_, ?_⟩
    · rw [inv.order, List.flatten_append]
      simp
    · have one : ([] ++ [batch]).length * batchRecordBytes cfg = batchRecordBytes cfg := Nat.one_mul _
      have all : (written ++ [batch]).length = written.length + 1 := List.length_append
      have parts : (closed ++ [current]).length = closed.length + 1 := List.length_append
      rw [stored.size, one, all, parts, total, Nat.succ_mul]
      exact closing
  · rw [if_neg full]
    have stored := write_batch_layout env cfg works r closed current batch inv.layout (by omega)
    refine ⟨closed, current ++ [batch], stored, ?_, ?_⟩
    · rw [inv.order, List.append_assoc]
    · rw [stored.size]
      simp only [List.length_append, List.length_singleton, limit]
      omega

-- With a working disk the recorder never stops, and its parts in index order
-- are the enqueued batches in order.
theorem record_parts (works : env.Working) (batches : List (PacketBatch cfg.batchsize))
    (bounded : batches.length * batchRecordBytes cfg ≤ 2 ^ 60) :
    ∃ (r : Recorder) (groups : List (List (PacketBatch cfg.batchsize))), record env cfg batches = .ok r ∧ groups.flatten = batches ∧ r.parts = groups.map (partBytes env cfg) := by
  have started : ∃ first, baseband env (cfg.ringId / 2) = .ok first ∧ RecorderInv env cfg [] first [] [] := by
    refine ⟨(createFile env Recorder.initial).1, ?_, ?_, rfl, ?_⟩
    · simp only [baseband, createFile, works.created]
    · rw [createFile, works.created]
      exact ⟨rfl, rfl, rfl, (Nat.zero_mul _).symm⟩
    · simp [createFile, works.created]
  obtain ⟨first, opened, initial⟩ := started
  have written : ∃ closed current, RecorderInv env cfg batches (batches.foldl (recoder env cfg) first) closed current := by
    induction batches using List.reverseRecOn with
    | nil => exact ⟨[], [], initial⟩
    | append_singleton past batch ih =>
        rw [List.length_append, List.length_singleton] at bounded
        have fewer : past.length * batchRecordBytes cfg ≤ 2 ^ 60 :=
          (Nat.mul_le_mul_right _ (Nat.le_succ past.length)).trans bounded
        obtain ⟨closed, current, inv⟩ := ih fewer
        rw [List.foldl_append]
        exact recoder_inv env cfg works past _ closed current batch inv bounded
  obtain ⟨closed, current, inv⟩ := written
  refine ⟨batches.foldl (recoder env cfg) first, closed ++ [current], ?_, ?_, inv.layout.parts⟩
  · rw [record, opened]
    rfl
  · rw [inv.order]
    simp

end

end SpectralLine
