import SpectralLine.Recv
import SpectralLine.Lib.Run

set_option autoImplicit false

namespace SpectralLine

variable (cfg : StreamConfig)

-- The header a stored packet leaves in its slot; slot 0 is rewritten in the
-- canonical (seconds, frame) form of the batch start.
def Recorded (f : Frame) (header : VDIF) : Prop :=
  ∃ stored, cfg.storedHeader f.vdif = .ok stored ∧
    header = if f.packetId % cfg.batchsize = 0 then stored.setPacketId f.packetId else stored

-- The entry being filled, against the packets stored so far. An entry keeps
-- the ids of its earlier uses; `fresh` says none of them is mistaken for an id
-- of this batch (before the very first packet, the zeroed slot 0 might be).
structure Filling (stored : List Frame) (batch : PacketBatch cfg.batchsize) : Prop where
  count : batch.receivedCount = (stored.filter fun f => f.packetId / cfg.batchsize = batch.batchId).length
  header : stored = [] ∨
    (batch.headerValid = true ∧ ∃ h : VDIF, batch.hdrs cfg.firstSlot = h.setPacketId (batch.batchId * cfg.batchsize))
  fresh : ∀ j, batch.pktId j = batch.batchId * cfg.batchsize + j.val →
    (∃ f ∈ stored, f.packetId = batch.batchId * cfg.batchsize + j.val) ∨ (stored = [] ∧ j.val = 0)
  kept : ∀ f ∈ stored, f.packetId / cfg.batchsize = batch.batchId →
    batch.pktId (cfg.slot f.packetId) = f.packetId ∧ batch.buffer (cfg.slot f.packetId) = f.packet ∧
    batch.noiseState (cfg.slot f.packetId) = (VDIF.readMetadata f.vdif cfg.calMode).noiseSourceState ∧
    (cfg.basebandMode = true → Recorded cfg f (batch.hdrs (cfg.slot f.packetId)))

-- What a batch looks like when it is enqueued.
structure Finished (stored : List Frame) (batch : PacketBatch cfg.batchsize) : Prop where
  valid : batch.valid = true ↔ ∀ j < cfg.batchsize, ∃ f ∈ stored, f.packetId = batch.batchId * cfg.batchsize + j
  kept : ∀ f ∈ stored, ∀ j : Fin cfg.batchsize, f.packetId = batch.batchId * cfg.batchsize + j.val →
    batch.buffer j = f.packet ∧
    batch.noiseState j = (VDIF.readMetadata f.vdif cfg.calMode).noiseSourceState ∧
    (cfg.basebandMode = true → Recorded cfg f (batch.hdrs j))
  filled : cfg.basebandMode = true → ∀ j : Fin cfg.batchsize,
    (∀ f ∈ stored, f.packetId ≠ batch.batchId * cfg.batchsize + j.val) →
    batch.buffer j = .memset 0x80 ∧
    ∃ h : VDIF, batch.hdrs j = (h.setPacketId (batch.batchId * cfg.batchsize + j.val)).setInvalid true
  start : cfg.basebandMode = false → ∃ h : VDIF, batch.hdrs cfg.firstSlot = h.setPacketId (batch.batchId * cfg.batchsize)

theorem id_of_slot (id : Nat) : id = id / cfg.batchsize * cfg.batchsize + (cfg.slot id).val :=
  (Nat.div_add_mod' id cfg.batchsize).symm

theorem same_batch_slot (a b : Nat) (batch : a / cfg.batchsize = b / cfg.batchsize)
    (slot : cfg.slot a = cfg.slot b) : a = b := by
  rw [id_of_slot cfg a, id_of_slot cfg b, batch, slot]

theorem id_in_batch (id batch : Nat) (j : Fin cfg.batchsize) (same : id = batch * cfg.batchsize + j.val) :
    id / cfg.batchsize = batch ∧ cfg.slot id = j := by
  have quotient : id / cfg.batchsize = batch := by
    rw [same, Nat.mul_comm, Nat.mul_add_div cfg.batchsizePos, Nat.div_eq_of_lt j.isLt, Nat.add_zero]
  refine ⟨quotient, Fin.ext ?_⟩
  have whole := id_of_slot cfg id
  rw [quotient] at whole
  omega

section FillLoop

variable (slots : List (Fin cfg.batchsize)) (batch : PacketBatch cfg.batchsize)

theorem fill_loop_frame :
    (slots.foldl (fillMissing cfg) batch).batchId = batch.batchId ∧
    (slots.foldl (fillMissing cfg) batch).valid = batch.valid ∧
    (slots.foldl (fillMissing cfg) batch).pktId = batch.pktId ∧
    (slots.foldl (fillMissing cfg) batch).noiseState = batch.noiseState := by
  induction slots generalizing batch with
  | nil => exact ⟨rfl, rfl, rfl, rfl⟩
  | cons i rest ih =>
      have step : (fillMissing cfg batch i).batchId = batch.batchId ∧ (fillMissing cfg batch i).valid = batch.valid ∧
          (fillMissing cfg batch i).pktId = batch.pktId ∧ (fillMissing cfg batch i).noiseState = batch.noiseState := by
        by_cases present : batch.pktId i = batch.batchId * cfg.batchsize + i.val <;> simp [fillMissing, present]
      obtain ⟨id, valid, ids, noise⟩ := ih (fillMissing cfg batch i)
      exact ⟨id.trans step.1, valid.trans step.2.1, ids.trans step.2.2.1, noise.trans step.2.2.2⟩

theorem fill_missing_other (i j : Fin cfg.batchsize) (different : j ≠ i) :
    (fillMissing cfg batch i).buffer j = batch.buffer j ∧ (fillMissing cfg batch i).hdrs j = batch.hdrs j := by
  by_cases present : batch.pktId i = batch.batchId * cfg.batchsize + i.val
  · simp [fillMissing, present]
  · simp [fillMissing, present, Function.update_of_ne different]

theorem fill_loop_elsewhere (j : Fin cfg.batchsize) (absent : j ∉ slots) :
    (slots.foldl (fillMissing cfg) batch).buffer j = batch.buffer j ∧
    (slots.foldl (fillMissing cfg) batch).hdrs j = batch.hdrs j := by
  induction slots generalizing batch with
  | nil => exact ⟨rfl, rfl⟩
  | cons i rest ih =>
      have different : j ≠ i := fun same => absent (by simp [same])
      obtain ⟨buffer, hdrs⟩ := ih (fillMissing cfg batch i) (fun member => absent (List.mem_cons_of_mem i member))
      obtain ⟨buffer', hdrs'⟩ := fill_missing_other cfg batch i j different
      exact ⟨buffer.trans buffer', hdrs.trans hdrs'⟩

theorem fill_loop_present (j : Fin cfg.batchsize) (present : batch.pktId j = batch.batchId * cfg.batchsize + j.val) :
    (slots.foldl (fillMissing cfg) batch).buffer j = batch.buffer j ∧
    (slots.foldl (fillMissing cfg) batch).hdrs j = batch.hdrs j := by
  induction slots generalizing batch with
  | nil => exact ⟨rfl, rfl⟩
  | cons i rest ih =>
      obtain ⟨id, _, ids, _⟩ := fill_loop_frame cfg [i] batch
      simp only [List.foldl_cons, List.foldl_nil] at id ids
      obtain ⟨buffer, hdrs⟩ := ih (fillMissing cfg batch i) (by rw [id, ids]; exact present)
      rcases eq_or_ne j i with same | different
      · subst same
        have unchanged : fillMissing cfg batch j = batch := if_pos present
        rw [List.foldl_cons, unchanged]
        rw [unchanged] at buffer hdrs
        exact ⟨buffer, hdrs⟩
      · obtain ⟨buffer', hdrs'⟩ := fill_missing_other cfg batch i j different
        exact ⟨buffer.trans buffer', hdrs.trans hdrs'⟩

theorem fill_loop_missing (distinct : slots.Nodup) (j : Fin cfg.batchsize) (member : j ∈ slots)
    (missing : batch.pktId j ≠ batch.batchId * cfg.batchsize + j.val) :
    (slots.foldl (fillMissing cfg) batch).buffer j = .memset 0x80 ∧
    ∃ h : VDIF, (slots.foldl (fillMissing cfg) batch).hdrs j =
      (h.setPacketId (batch.batchId * cfg.batchsize + j.val)).setInvalid true := by
  induction slots generalizing batch with
  | nil => simp at member
  | cons i rest ih =>
      obtain ⟨notLater, restDistinct⟩ := List.nodup_cons.mp distinct
      rcases eq_or_ne j i with same | different
      · subst same
        obtain ⟨buffer, hdrs⟩ := fill_loop_elsewhere cfg rest (fillMissing cfg batch j) j notLater
        have here : (fillMissing cfg batch j).buffer j = .memset 0x80 ∧ (fillMissing cfg batch j).hdrs j =
            (((batch.hdrs cfg.firstSlot).setPacketId (batch.batchId * cfg.batchsize + j.val)).setInvalid true) := by
          simp [fillMissing, missing]
        exact ⟨buffer.trans here.1, batch.hdrs cfg.firstSlot, hdrs.trans here.2⟩
      · obtain ⟨id, _, ids, _⟩ := fill_loop_frame cfg [i] batch
        simp only [List.foldl_cons, List.foldl_nil] at id ids
        have later : j ∈ rest := (List.mem_cons.mp member).resolve_left different
        simpa only [id, List.foldl_cons] using ih (fillMissing cfg batch i) restDistinct later (by rw [id, ids]; exact missing)

end FillLoop

def idsAscend (stored : List Frame) : Prop := stored.Pairwise fun a b => a.packetId < b.packetId

-- The slots of one batch that hold a packet, in order of arrival.
def filledSlots (stored : List Frame) (batchId : Nat) : List (Fin cfg.batchsize) :=
  (stored.filter fun f => f.packetId / cfg.batchsize = batchId).map fun f => cfg.slot f.packetId

theorem filled_slots_nodup (stored : List Frame) (batchId : Nat) (ordered : idsAscend stored) :
    (filledSlots cfg stored batchId).Nodup := by
  unfold filledSlots List.Nodup
  rw [List.pairwise_map]
  apply List.Pairwise.imp_of_mem _ (List.Pairwise.filter _ ordered)
  intro a b memberA memberB less slot
  have batchA : a.packetId / cfg.batchsize = batchId := by simpa using (List.mem_filter.mp memberA).2
  have batchB : b.packetId / cfg.batchsize = batchId := by simpa using (List.mem_filter.mp memberB).2
  exact absurd (same_batch_slot cfg a.packetId b.packetId (batchA.trans batchB.symm) slot) (Nat.ne_of_lt less)

theorem mem_filled_slots (stored : List Frame) (batchId : Nat) (j : Fin cfg.batchsize) :
    j ∈ filledSlots cfg stored batchId ↔ ∃ f ∈ stored, f.packetId = batchId * cfg.batchsize + j.val := by
  simp only [filledSlots, List.mem_map, List.mem_filter, decide_eq_true_eq]
  constructor
  · rintro ⟨f, ⟨member, batch⟩, slot⟩
    exact ⟨f, member, by rw [← slot, ← batch]; exact id_of_slot cfg f.packetId⟩
  · rintro ⟨f, member, same⟩
    obtain ⟨batch, slot⟩ := id_in_batch cfg f.packetId batchId j same
    exact ⟨f, ⟨member, batch⟩, slot⟩

theorem received_all (stored : List Frame) (batch : PacketBatch cfg.batchsize) (filling : Filling cfg stored batch)
    (ordered : idsAscend stored) : batch.receivedCount = cfg.batchsize ↔
      ∀ j < cfg.batchsize, ∃ f ∈ stored, f.packetId = batch.batchId * cfg.batchsize + j := by
  have length : (filledSlots cfg stored batch.batchId).length = batch.receivedCount := by
    rw [filledSlots, List.length_map, filling.count]
  rw [← length, Run.nodup_covers _ (filled_slots_nodup cfg stored batch.batchId ordered)]
  constructor
  · intro covers j bound
    exact (mem_filled_slots cfg stored batch.batchId ⟨j, bound⟩).mp (covers ⟨j, bound⟩)
  · intro all j
    exact (mem_filled_slots cfg stored batch.batchId j).mpr (all j.val j.isLt)

theorem pkt_id_present (stored : List Frame) (batch : PacketBatch cfg.batchsize) (filling : Filling cfg stored batch)
    (nonempty : stored ≠ []) (j : Fin cfg.batchsize) :
    batch.pktId j = batch.batchId * cfg.batchsize + j.val ↔
      ∃ f ∈ stored, f.packetId = batch.batchId * cfg.batchsize + j.val := by
  constructor
  · intro same
    exact (filling.fresh j same).resolve_right fun empty => nonempty empty.1
  · rintro ⟨f, member, same⟩
    obtain ⟨inBatch, slot⟩ := id_in_batch cfg f.packetId batch.batchId j same
    rw [← slot, (filling.kept f member inBatch).1, slot, same]

theorem finalize_frame (batch : PacketBatch cfg.batchsize) :
    (finalizeBatch cfg batch).batchId = batch.batchId ∧ (finalizeBatch cfg batch).pktId = batch.pktId := by
  by_cases early : (!cfg.basebandMode || (batch.headerValid && batch.receivedCount == cfg.batchsize) ||
      !batch.headerValid) = true
  · simp [finalizeBatch, early]
  · obtain ⟨id, _, ids, _⟩ := fill_loop_frame cfg (List.finRange cfg.batchsize)
      { batch with valid := batch.headerValid && batch.receivedCount == cfg.batchsize }
    simp only [finalizeBatch, early]
    exact ⟨id, ids⟩

-- `batch` itself, with only the valid flag and (in baseband mode) the missing
-- slots rewritten.
theorem finalize_finished (stored : List Frame) (batch : PacketBatch cfg.batchsize)
    (filling : Filling cfg stored batch) (ordered : idsAscend stored) (nonempty : stored ≠ []) :
    Finished cfg stored (finalizeBatch cfg batch) := by
  obtain ⟨headerValid, header, start⟩ := filling.header.resolve_left nonempty
  have complete := received_all cfg stored batch filling ordered
  have keptAt : ∀ f ∈ stored, ∀ j : Fin cfg.batchsize, f.packetId = batch.batchId * cfg.batchsize + j.val →
      batch.buffer j = f.packet ∧ batch.noiseState j = (VDIF.readMetadata f.vdif cfg.calMode).noiseSourceState ∧
      (cfg.basebandMode = true → Recorded cfg f (batch.hdrs j)) := by
    intro f member j same
    obtain ⟨inBatch, slot⟩ := id_in_batch cfg f.packetId batch.batchId j same
    have kept := (filling.kept f member inBatch).2
    rwa [slot] at kept
  by_cases full : batch.receivedCount = cfg.batchsize
  · have unfilled : finalizeBatch cfg batch = { batch with valid := true } := by
      simp [finalizeBatch, headerValid, full]
    rw [unfilled]
    refine ⟨by simpa using complete.mp full, keptAt, ?_, fun _ => ⟨header, start⟩⟩
    intro _ j absent
    obtain ⟨f, member, same⟩ := complete.mp full j.val j.isLt
    exact absurd same (absent f member)
  · have gap : ¬ ∀ j < cfg.batchsize, ∃ f ∈ stored, f.packetId = batch.batchId * cfg.batchsize + j :=
      fun all => full (complete.mpr all)
    by_cases baseband : cfg.basebandMode = true
    · let marked := { batch with valid := false }
      have filled : finalizeBatch cfg batch = (List.finRange cfg.batchsize).foldl (fillMissing cfg) marked := by
        have unequal : (batch.receivedCount == cfg.batchsize) = false := by simpa using full
        simp [finalizeBatch, headerValid, unequal, baseband, marked]
      rw [filled]
      obtain ⟨id, valid, _, noise⟩ := fill_loop_frame cfg (List.finRange cfg.batchsize) marked
      refine ⟨by simpa only [id, valid, marked, Bool.false_eq_true, false_iff] using gap, ?_, ?_, ?_⟩
      · intro f member j same
        rw [id] at same
        have present : marked.pktId j = marked.batchId * cfg.batchsize + j.val :=
          (pkt_id_present cfg stored batch filling nonempty j).mpr ⟨f, member, same⟩
        obtain ⟨buffer, hdrs⟩ := fill_loop_present cfg (List.finRange cfg.batchsize) marked j present
        rw [buffer, hdrs, noise]
        exact keptAt f member j same
      · intro _ j absent
        rw [id] at absent ⊢
        have missing : marked.pktId j ≠ marked.batchId * cfg.batchsize + j.val := by
          intro same
          obtain ⟨f, member, equal⟩ := (pkt_id_present cfg stored batch filling nonempty j).mp same
          exact absent f member equal
        exact fill_loop_missing cfg (List.finRange cfg.batchsize) marked (List.nodup_finRange cfg.batchsize) j
          (List.mem_finRange j) missing
      · intro spectral
        simp [baseband] at spectral
    · have unfilled : finalizeBatch cfg batch = { batch with valid := false } := by
        simp [finalizeBatch, full, baseband]
      rw [unfilled]
      exact ⟨by simpa using gap, keptAt, fun inBaseband => absurd inBaseband baseband, fun _ => ⟨header, start⟩⟩

section Store

variable (batch : PacketBatch cfg.batchsize) (f : Frame) (header : VDIF)

abbrev metadataOf : VDIF.Metadata := VDIF.readMetadata f.vdif cfg.calMode

theorem metadata_packet_id : (metadataOf cfg f).packetId = f.packetId :=
  VDIF.read_metadata_packet_id f.vdif cfg.calMode

theorem store_into_ids : (storeInto cfg batch f (metadataOf cfg f) header).batchId = batch.batchId ∧
    (storeInto cfg batch f (metadataOf cfg f) header).receivedCount = batch.receivedCount + 1 ∧
    (storeInto cfg batch f (metadataOf cfg f) header).pktId =
      Function.update batch.pktId (cfg.slot f.packetId) f.packetId ∧
    (storeInto cfg batch f (metadataOf cfg f) header).buffer =
      Function.update batch.buffer (cfg.slot f.packetId) f.packet := by
  by_cases first : batch.receivedCount = 0 <;> simp [storeInto, metadata_packet_id, first]

theorem store_into_first (first : batch.receivedCount = 0) :
    (storeInto cfg batch f (metadataOf cfg f) header).headerValid = true ∧
    (storeInto cfg batch f (metadataOf cfg f) header).hdrs cfg.firstSlot =
      header.setPacketId (f.packetId / cfg.batchsize * cfg.batchsize) := by
  simp [storeInto, metadata_packet_id, first]

theorem store_into_later (later : batch.receivedCount ≠ 0) :
    (storeInto cfg batch f (metadataOf cfg f) header).headerValid = batch.headerValid ∧
    ∀ j, j ≠ cfg.slot f.packetId →
      (storeInto cfg batch f (metadataOf cfg f) header).hdrs j = batch.hdrs j ∧
      (storeInto cfg batch f (metadataOf cfg f) header).noiseState j = batch.noiseState j := by
  refine ⟨by simp [storeInto, later], fun j different => ?_⟩
  by_cases baseband : cfg.basebandMode = true <;>
    simp [storeInto, metadata_packet_id, later, baseband, Function.update_of_ne different]

theorem store_into_here (recorded : cfg.storedHeader f.vdif = .ok header)
    (zero : cfg.slot f.packetId = cfg.firstSlot → batch.receivedCount = 0) :
    (storeInto cfg batch f (metadataOf cfg f) header).noiseState (cfg.slot f.packetId) =
      (metadataOf cfg f).noiseSourceState ∧
    (cfg.basebandMode = true →
      Recorded cfg f ((storeInto cfg batch f (metadataOf cfg f) header).hdrs (cfg.slot f.packetId))) := by
  by_cases start : cfg.slot f.packetId = cfg.firstSlot
  · have aligned : f.packetId % cfg.batchsize = 0 := congrArg Fin.val start
    have whole : f.packetId / cfg.batchsize * cfg.batchsize = f.packetId := Nat.div_mul_cancel (Nat.dvd_of_mod_eq_zero aligned)
    have first := zero start
    refine ⟨by simp [storeInto, metadata_packet_id, first, start], fun _ => ⟨header, recorded, ?_⟩⟩
    simp [storeInto, metadata_packet_id, first, start, aligned, whole]
  · have unaligned : ¬ f.packetId % cfg.batchsize = 0 := fun zeroSlot => start (Fin.ext zeroSlot)
    refine ⟨?_, fun baseband => ⟨header, recorded, ?_⟩⟩
    · by_cases first : batch.receivedCount = 0 <;> simp [storeInto, metadata_packet_id, first, start]
    · by_cases first : batch.receivedCount = 0 <;>
        simp [storeInto, metadata_packet_id, first, start, baseband, unaligned]

end Store

-- A packet of this batch that is already stored sits strictly below the new one.
theorem stored_below (f g : Frame) (batchId : Nat) (inBatch : f.packetId / cfg.batchsize = batchId)
    (same : g.packetId / cfg.batchsize = batchId) (less : g.packetId < f.packetId) :
    (cfg.slot g.packetId).val < (cfg.slot f.packetId).val := by
  have gWhole := id_of_slot cfg g.packetId
  have fWhole := id_of_slot cfg f.packetId
  rw [same] at gWhole
  rw [inBatch] at fWhole
  omega

theorem filling_unstarted (stored : List Frame) (batch : PacketBatch cfg.batchsize) (filling : Filling cfg stored batch)
    (none : batch.receivedCount = 0) : ∀ g ∈ stored, g.packetId / cfg.batchsize ≠ batch.batchId := by
  intro g member same
  have size := filling.count
  rw [none] at size
  have absent := List.eq_nil_of_length_eq_zero size.symm
  exact List.filter_eq_nil_iff.mp absent g member (by simpa using same)

theorem filling_started (stored : List Frame) (batch : PacketBatch cfg.batchsize) (filling : Filling cfg stored batch)
    (started : batch.receivedCount ≠ 0) : ∃ g ∈ stored, g.packetId / cfg.batchsize = batch.batchId := by
  obtain ⟨g, present⟩ := List.exists_mem_of_ne_nil _ (fun none : stored.filter _ = [] =>
    started (by rw [filling.count, none]; rfl))
  obtain ⟨member, same⟩ := List.mem_filter.mp present
  exact ⟨g, member, by simpa using same⟩

theorem store_header (stored : List Frame) (batch : PacketBatch cfg.batchsize) (f : Frame) (header : VDIF)
    (filling : Filling cfg stored batch) (inBatch : f.packetId / cfg.batchsize = batch.batchId)
    (newest : ∀ g ∈ stored, g.packetId < f.packetId) :
    (storeInto cfg batch f (metadataOf cfg f) header).headerValid = true ∧ ∃ h : VDIF,
      (storeInto cfg batch f (metadataOf cfg f) header).hdrs cfg.firstSlot = h.setPacketId (batch.batchId * cfg.batchsize) := by
  by_cases first : batch.receivedCount = 0
  · obtain ⟨valid, start⟩ := store_into_first cfg batch f header first
    exact ⟨valid, header, by rw [start, inBatch]⟩
  · obtain ⟨g, member, same⟩ := filling_started cfg stored batch filling first
    have lower := stored_below cfg f g batch.batchId inBatch same (newest g member)
    obtain ⟨valid, others⟩ := store_into_later cfg batch f header first
    obtain ⟨oldValid, old⟩ := filling.header.resolve_left (List.ne_nil_of_mem member)
    have away : cfg.firstSlot ≠ cfg.slot f.packetId := by
      intro same
      have zero : (cfg.slot f.packetId).val = 0 := (congrArg Fin.val same).symm
      omega
    exact ⟨valid.trans oldValid, by rw [(others cfg.firstSlot away).1]; exact old⟩

theorem store_filling (stored : List Frame) (batch : PacketBatch cfg.batchsize) (f : Frame) (header : VDIF)
    (filling : Filling cfg stored batch) (recorded : cfg.storedHeader f.vdif = .ok header)
    (inBatch : f.packetId / cfg.batchsize = batch.batchId) (newest : ∀ g ∈ stored, g.packetId < f.packetId)
    (aligned : stored = [] → f.packetId % cfg.batchsize = 0) :
    Filling cfg (stored ++ [f]) (storeInto cfg batch f (metadataOf cfg f) header) := by
  obtain ⟨id, count, ids, buffer⟩ := store_into_ids cfg batch f header
  have below : ∀ g ∈ stored, g.packetId / cfg.batchsize = batch.batchId → (cfg.slot g.packetId).val < (cfg.slot f.packetId).val :=
    fun g member same => stored_below cfg f g batch.batchId inBatch same (newest g member)
  refine ⟨?_, Or.inr ?_, ?_, ?_⟩
  · rw [count, id, List.filter_append, List.length_append, filling.count]
    simp [inBatch]
  · rw [id]
    exact store_header cfg stored batch f header filling inBatch newest
  · intro j same
    left
    rw [id] at same ⊢
    rw [ids] at same
    rcases eq_or_ne j (cfg.slot f.packetId) with here | elsewhere
    · rw [here, Function.update_self] at same
      exact ⟨f, by simp, by rw [here]; exact same⟩
    · rw [Function.update_of_ne elsewhere] at same
      rcases filling.fresh j same with ⟨g, member, equal⟩ | ⟨empty, zero⟩
      · exact ⟨g, List.mem_append_left [f] member, equal⟩
      · have slotZero : (cfg.slot f.packetId).val = 0 := aligned empty
        exact absurd (Fin.ext (zero.trans slotZero.symm)) elsewhere
  · intro g member same
    rw [id] at same
    rw [ids, buffer]
    rcases List.mem_append.mp member with old | new
    · have lower := below g old same
      have apart : cfg.slot g.packetId ≠ cfg.slot f.packetId := fun equal => by rw [equal] at lower; omega
      have later : batch.receivedCount ≠ 0 := fun none => filling_unstarted cfg stored batch filling none g old same
      obtain ⟨hdrs, noise⟩ := (store_into_later cfg batch f header later).2 (cfg.slot g.packetId) apart
      rw [Function.update_of_ne apart, Function.update_of_ne apart, hdrs, noise]
      exact filling.kept g old same
    · rw [List.mem_singleton] at new
      subst new
      rw [Function.update_self, Function.update_self]
      refine ⟨rfl, rfl, store_into_here cfg batch g header recorded ?_⟩
      intro start
      rw [filling.count, List.length_eq_zero_iff, List.filter_eq_nil_iff]
      intro other otherMember sameBatch
      have lower := below other otherMember (by simpa using sameBatch)
      have zero : (cfg.slot g.packetId).val = 0 := congrArg Fin.val start
      omega

theorem prepare_filling (st : RecvState cfg) (batch : PacketBatch cfg.batchsize) (batchId : Nat)
    (stored : List Frame) (template : stored = [] ∨ st.haveHeaderTemplate = true)
    (empty : ∀ g ∈ stored, g.packetId / cfg.batchsize ≠ batchId)
    (fresh : ∀ j, batch.pktId j = batchId * cfg.batchsize + j.val →
      (∃ f ∈ stored, f.packetId = batchId * cfg.batchsize + j.val) ∨ (stored = [] ∧ j.val = 0)) :
    Filling cfg stored (prepareBatch cfg st batch batchId) := by
  have kept : (prepareBatch cfg st batch batchId).batchId = batchId ∧
      (prepareBatch cfg st batch batchId).receivedCount = 0 ∧
      (prepareBatch cfg st batch batchId).pktId = batch.pktId := by
    by_cases have_ : st.haveHeaderTemplate = true <;> simp [prepareBatch, have_]
  obtain ⟨id, count, ids⟩ := kept
  refine ⟨?_, template.imp_right ?_, ?_, ?_⟩
  · rw [count, id, eq_comm, List.length_eq_zero_iff, List.filter_eq_nil_iff]
    intro g member same
    exact empty g member (by simpa using same)
  · intro present
    exact ⟨by simp [prepareBatch, present], st.lastHeaderTemplate, by simp [prepareBatch, present]⟩
  · rw [id, ids]
    exact fresh
  · rw [id]
    exact fun g member same => absurd same (empty g member)

end SpectralLine
