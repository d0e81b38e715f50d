import SpectralLine.GapFill
import SpectralLine.Recording
import SpectralLine.ReaderRun
import SpectralLine.Lib.Keyed

set_option autoImplicit false

namespace SpectralLine

open BitField

def writtenFormat (cfg : StreamConfig) : Nat × Bool × Nat :=
  (cfg.basebandBits.toNat, true, (cfg.threadId.setWidth 32 &&& 0x3ff#32).toNat)

def quantised (env : RecorderEnv) (cfg : StreamConfig) (packet : Packet) : List Byte :=
  (quantize cfg.basebandBits env.avx512 packet.payload framePayload).take (framePayload * cfg.basebandBits.toNat / 8)

theorem read_back_word2 (h : VDIF) : (readBack h).frameBytes = (getBits 0 0xffffff#32 (h.getWord 2)).toNat * 8 ∧
    (readBack h).log2Channels = (getBits 24 0x1f#32 (h.getWord 2)).toNat := by
  have word := unpack_word h 2
  simp only [Fin.val_two] at word
  simp only [readBack, headerOfWords, word, getBits, BitVec.ushiftRight_zero, and_self]

theorem read_back_word3 (h : VDIF) : (readBack h).bitsPerSample = (getBits 26 0x1f#32 (h.getWord 3)).toNat + 1 ∧
    (readBack h).threadId = (getBits 16 0x3ff#32 (h.getWord 3)).toNat ∧
    (readBack h).complexData = (getBits 31 1#32 (h.getWord 3) != 0#32) := by
  have word := unpack_word h 3
  have three : ((3 : Fin 8) : Nat) = 3 := rfl
  rw [three] at word
  simp only [readBack, headerOfWords, word, getBits, and_self]

theorem configured_read_back (cfg : StreamConfig) (h c : VDIF)
    (done : h.configureBaseband cfg.basebandBits cfg.threadId VDIF.payloadLen = .ok c) :
    (readBack c).frameBytes = VDIF.frameBytes cfg.basebandBits ∧ (readBack c).log2Channels = 0 ∧
    (readBack c).complexData = true ∧
    ((readBack c).bitsPerSample, (readBack c).complexData, (readBack c).threadId) = writtenFormat cfg := by
  have word2 := VDIF.configure_baseband_word2 h c cfg.basebandBits cfg.threadId cfg.basebandBitsAccepted done
  have word3 := VDIF.configure_baseband_word3 h c cfg.basebandBits cfg.threadId cfg.basebandBitsAccepted done
  obtain ⟨bytes, channels⟩ := read_back_word2 c
  obtain ⟨bits, thread, complex⟩ := read_back_word3 c
  have frameLength : (readBack c).frameBytes = VDIF.frameBytes cfg.basebandBits := by
    rw [bytes, word2, get_put_other _ _ _ _ _ _ (by decide) (by decide), get_put_other _ _ _ _ _ _ (by decide) (by decide),
      get_put_same _ _ _ _ _ (by decide) (by decide)]
    rcases cfg.basebandBitsAccepted with width | width | width <;> rw [width] <;> decide
  have single : (readBack c).log2Channels = 0 := by
    rw [channels, word2, get_put_other _ _ _ _ _ _ (by decide) (by decide),
      get_put_same _ _ _ _ _ (by decide) (by decide)]
    rfl
  have marked : (readBack c).complexData = true := by
    rw [complex, word3, get_put_other _ _ _ _ _ _ (by decide) (masked_outside _ _ _ _ _ (by decide))]
    rw [get_put_other _ _ _ _ _ _ (by decide)]
    · rw [get_put_same _ _ _ _ _ (by decide) (by decide)]
      rfl
    · rcases cfg.basebandBitsAccepted with width | width | width <;> rw [width] <;> decide
  have component : (readBack c).bitsPerSample = cfg.basebandBits.toNat := by
    rw [bits, word3, get_put_other _ _ _ _ _ _ (by decide) (masked_outside _ _ _ _ _ (by decide)),
      get_put_same _ _ _ _ _ (by decide) (by decide)]
    rcases cfg.basebandBitsAccepted with width | width | width <;> rw [width] <;> decide
  have source : (readBack c).threadId = (cfg.threadId.setWidth 32 &&& 0x3ff#32).toNat := by
    rw [thread, word3, get_put_same _ _ _ _ _ (by decide) (by decide), BitVec.and_assoc, BitVec.and_self]
  exact ⟨frameLength, single, marked, by rw [marked, component, source, writtenFormat]⟩

-- setPacketId touches words 0 and 1 only.
theorem read_back_set_packet_id (h : VDIF) (id : Nat) :
    (readBack (h.setPacketId id)).frameBytes = (readBack h).frameBytes ∧
    (readBack (h.setPacketId id)).log2Channels = (readBack h).log2Channels ∧
    (readBack (h.setPacketId id)).complexData = (readBack h).complexData ∧
    (readBack (h.setPacketId id)).bitsPerSample = (readBack h).bitsPerSample ∧
    (readBack (h.setPacketId id)).threadId = (readBack h).threadId := by
  have word2 := VDIF.set_packet_id_word h id 2 (by decide) (by decide)
  have word3 := VDIF.set_packet_id_word h id 3 (by decide) (by decide)
  simp only [(read_back_word2 _).1, (read_back_word2 _).2, (read_back_word3 _).1, (read_back_word3 _).2.1,
    (read_back_word3 _).2.2, word2, word3, and_self]

theorem quantised_length (env : RecorderEnv) (cfg : StreamConfig) (packet : Packet) :
    vdifHeaderBytes + (quantised env cfg packet).length = VDIF.frameBytes cfg.basebandBits := by
  rw [quantised, frame_payload_length]
  rfl

-- An accepted packet with clear flag bits is written as a frame the reader takes.
theorem recorded_readable (env : RecorderEnv) (cfg : StreamConfig) (baseband : cfg.basebandMode = true) (f : Frame)
    (header : VDIF) (clear : f.vdif.getInvalid = false ∧ f.vdif.getLegacy = false)
    (recorded : Recorded cfg f header) (packet : Packet) :
    Readable (writtenFormat cfg) (header, quantised env cfg packet) := by
  obtain ⟨stored, done, same⟩ := recorded
  rw [StreamConfig.storedHeader, if_pos baseband] at done
  obtain ⟨length, single, complex, format⟩ := configured_read_back cfg f.vdif stored done
  have word0 := VDIF.configure_baseband_word f.vdif stored cfg.basebandBits cfg.threadId cfg.basebandBitsAccepted done 0
    (by decide)
  have flags : stored.getInvalid = false ∧ stored.getLegacy = false := by
    simp only [VDIF.getInvalid, VDIF.getLegacy, VDIF.getFlag, word0] at clear ⊢
    exact clear
  by_cases start : f.packetId % cfg.batchsize = 0
  · rw [if_pos start] at same
    subst same
    obtain ⟨keepLength, keepSingle, keepComplex, keepBits, keepThread⟩ := read_back_set_packet_id stored f.packetId
    refine ⟨?_, ?_, ?_, keepComplex.trans complex, keepSingle.trans single, ?_⟩
    · rw [read_back_invalid, VDIF.getLegacy, VDIF.set_packet_id_flag stored f.packetId 31 (Or.inr rfl)]
      exact flags.2
    · rw [read_back_legacy, VDIF.getInvalid, VDIF.set_packet_id_flag stored f.packetId 30 (Or.inl rfl)]
      exact flags.1
    · rw [keepLength, length, quantised_length]
    · rw [keepBits, keepComplex, keepThread, format]
  · rw [if_neg start] at same
    subst same
    refine ⟨?_, ?_, ?_, complex, single, format⟩
    · rw [read_back_invalid]
      exact flags.2
    · rw [read_back_legacy]
      exact flags.1
    · rw [length, quantised_length]

section

variable (cfg : StreamConfig)

def slots (batches : List (PacketBatch cfg.batchsize)) : List (PacketBatch cfg.batchsize × Fin cfg.batchsize) :=
  batches.flatMap fun batch => (List.finRange cfg.batchsize).map fun i => (batch, i)

def slotId (slot : PacketBatch cfg.batchsize × Fin cfg.batchsize) : Nat := slot.1.batchId * cfg.batchsize + slot.2.val

def writtenFrame (env : RecorderEnv) (slot : PacketBatch cfg.batchsize × Fin cfg.batchsize) : WrittenFrame :=
  (slot.1.hdrs slot.2, quantised env cfg (slot.1.buffer slot.2))

def writtenFrames (env : RecorderEnv) (batches : List (PacketBatch cfg.batchsize)) : List WrittenFrame :=
  (slots cfg batches).map (writtenFrame cfg env)

theorem mem_slots (batches : List (PacketBatch cfg.batchsize)) (batch : PacketBatch cfg.batchsize) (i : Fin cfg.batchsize) :
    (batch, i) ∈ slots cfg batches ↔ batch ∈ batches := by
  simp [slots]

theorem slot_ids (batches : List (PacketBatch cfg.batchsize)) (first : Nat)
    (queue : batches.map PacketBatch.batchId = List.range' first batches.length) :
    (slots cfg batches).map (slotId cfg) = List.range' (first * cfg.batchsize) (batches.length * cfg.batchsize) := by
  have block : ∀ batch : PacketBatch cfg.batchsize,
      ((List.finRange cfg.batchsize).map fun i => (batch, i)).map (slotId cfg) =
        List.range' (batch.batchId * cfg.batchsize) cfg.batchsize := by
    intro batch
    rw [List.map_map, List.range'_eq_map_range, ← List.map_coe_finRange_eq_range, List.map_map]
    rfl
  rw [← Keyed.blocks_range, ← queue, slots, List.map_flatMap, List.flatMap_map]
  simp only [block]

theorem part_frames (env : RecorderEnv) (group : List (PacketBatch cfg.batchsize)) :
    partBytes env cfg group = (writtenFrames cfg env group).flatMap WrittenFrame.bytes := by
  rw [partBytes, writtenFrames, slots, List.map_flatMap, List.flatMap_assoc]
  congr 1
  funext batch
  rw [batch_record_frames, List.map_map, List.flatMap_map]
  congr 1
  funext i
  simp [frameRecord, frameIov, WrittenFrame.bytes, writtenFrame, quantised]

theorem written_flatten (env : RecorderEnv) (groups : List (List (PacketBatch cfg.batchsize))) :
    (groups.map (writtenFrames cfg env)).flatten = writtenFrames cfg env groups.flatten := by
  induction groups with
  | nil => rfl
  | cons group groups ih => simp [writtenFrames, slots] at ih ⊢; rw [ih]

-- No id is missing between an accepted packet and the last batch boundary at
-- or below another one: exactly the ids of the batches that were enqueued.
def Lossless (packets : List Frame) : Prop :=
  ∀ f ∈ packets, ∀ g ∈ packets, ∀ id, f.packetId ≤ id → id < g.packetId / cfg.batchsize * cfg.batchsize →
    ∃ p ∈ packets, p.packetId = id

structure EnqueuedIds (packets : List Frame) (queued : List (PacketBatch cfg.batchsize)) (first len : Nat) : Prop where
  ids : (slots cfg queued).map (slotId cfg) = List.range' first len
  size : len = queued.length * cfg.batchsize
  span : ∀ id, (first ≤ id ∧ id < first + len) ↔
    ∃ f ∈ packets, ∃ g ∈ packets, f.packetId ≤ id ∧ id < g.packetId / cfg.batchsize * cfg.batchsize
  reach : len = 0 ∨ ∃ g ∈ packets, first + len ≤ g.packetId

theorem origin_least (st : RecvState cfg) (origin : Frame) (running : Running cfg st origin) :
    ∀ f ∈ st.stored, origin.packetId ≤ f.packetId := by
  intro f member
  have ordered := running.batches.ordered
  have head := running.head
  cases stored : st.stored with
  | nil => simp [stored] at member
  | cons first rest =>
      rw [stored] at member ordered head
      obtain rfl : first = origin := Option.some.inj head
      rcases List.mem_cons.mp member with rfl | later
      · exact Nat.le_refl _
      · exact Nat.le_of_lt ((List.pairwise_cons.mp ordered).1 f later)

theorem enqueued_ids (events : List (RecvEvent cfg)) (st : RecvState cfg) (run : recv2mem cfg events = .ok st) :
    ∃ first len, EnqueuedIds cfg (accepted cfg (arrivals cfg events)) st.queued first len := by
  obtain ⟨stored, phase⟩ := recv_run_inv cfg events st run
  rw [← stored]
  rcases phase with idle | ⟨origin, running⟩
  · exact ⟨0, 0, by simp [idle.queued, slots], by simp [idle.queued], by simp [idle.stored], Or.inl rfl⟩
  · have queue := running.batches.queue
    have count : st.queued.length = st.prebatchid - origin.packetId / cfg.batchsize := by
      rw [← List.length_map (f := PacketBatch.batchId), queue, List.length_range']
    rw [← count] at queue
    have lower := running.batches.lower
    obtain ⟨newest, inStored, _, last⟩ := running.newest
    have start : origin.packetId / cfg.batchsize * cfg.batchsize = origin.packetId :=
      Nat.div_mul_cancel (Nat.dvd_of_mod_eq_zero running.aligned)
    have finish : origin.packetId / cfg.batchsize * cfg.batchsize + st.queued.length * cfg.batchsize =
        st.prebatchid * cfg.batchsize := by rw [← Nat.add_mul, count, Nat.add_sub_cancel' lower]
    refine ⟨_, _, slot_ids cfg st.queued _ queue, rfl, ?_, ?_⟩
    · intro id
      rw [finish, start]
      constructor
      · intro inside
        have member : origin ∈ st.stored := List.mem_of_mem_head? (Option.mem_def.mpr running.head)
        exact ⟨origin, member, newest, inStored, inside.1, by rw [last]; exact inside.2⟩
      · rintro ⟨f, inF, g, inG, above, below⟩
        refine ⟨(origin_least cfg st origin running f inF).trans above, Nat.lt_of_lt_of_le below ?_⟩
        exact Nat.mul_le_mul_right _ (running.batches.reach g inG)
    · refine Or.inr ⟨newest, inStored, ?_⟩
      rw [finish, ← last]
      exact Nat.div_mul_le_self _ _

theorem lossless_iff (packets : List Frame) (queued : List (PacketBatch cfg.batchsize)) (first len : Nat)
    (enqueued : EnqueuedIds cfg packets queued first len) :
    Lossless cfg packets ↔ ∀ slot ∈ slots cfg queued, ∃ f ∈ packets, f.packetId = slotId cfg slot := by
  have listed : ∀ id, id ∈ (slots cfg queued).map (slotId cfg) ↔ first ≤ id ∧ id < first + len := by
    intro id
    rw [enqueued.ids, List.mem_range'_1]
  constructor
  · intro lossless slot member
    obtain ⟨f, inF, g, inG, above, below⟩ :=
      (enqueued.span _).mp ((listed _).mp (List.mem_map_of_mem (f := slotId cfg) member))
    exact lossless f inF g inG _ above below
  · intro complete f inF g inG id above below
    obtain ⟨slot, member, same⟩ :=
      List.mem_map.mp ((listed id).mpr ((enqueued.span id).mpr ⟨f, inF, g, inG, above, below⟩))
    rw [← same]
    exact complete slot member

def inEnqueued (queued : List (PacketBatch cfg.batchsize)) (f : Frame) : Bool :=
  queued.any fun batch => batch.batchId == f.packetId / cfg.batchsize

structure RoundTrip (env : RecorderEnv) (packets : List Frame) (queued : List (PacketBatch cfg.batchsize))
    (result : ReadState × Option String) : Prop where
  noError : result.2 = none
  missing : result.1.stats.missingFrames = 0
  duplicate : result.1.stats.duplicateFrames = 0
  reordered : result.1.stats.reorderedFrames = 0
  truncated : result.1.stats.truncatedBytes = 0
  invalid : result.1.stats.invalidFrames =
    (slots cfg queued).countP fun slot => packets.all fun f => f.packetId != slotId cfg slot
  yielded : result.1.yielded.map (fun frame => (frame.1.packetId 62500, frame.2)) =
    (packets.filter (inEnqueued cfg queued)).map fun f =>
      (f.packetId, quantised env cfg f.packet)

structure BasebandRun (env : RecorderEnv) (packets : List Frame) (queued : List (PacketBatch cfg.batchsize)) : Prop where
  baseband : cfg.basebandMode = true
  clear : ∀ f ∈ packets, f.vdif.getInvalid = false ∧ f.vdif.getLegacy = false
  fits : ∀ f ∈ packets, f.packetId < 2 ^ 30 * VDIF.framesPerSecond
  ordered : idsAscend packets
  finished : ∀ batch ∈ queued, Finished cfg packets batch

theorem written_packet (env : RecorderEnv) (packets : List Frame) (queued : List (PacketBatch cfg.batchsize))
    (recording : BasebandRun cfg env packets queued) (slot : PacketBatch cfg.batchsize × Fin cfg.batchsize)
    (member : slot ∈ slots cfg queued) (f : Frame) (inPackets : f ∈ packets) (same : f.packetId = slotId cfg slot) :
    Readable (writtenFormat cfg) (writtenFrame cfg env slot) ∧ (writtenFrame cfg env slot).1.packetId = f.packetId ∧
    (writtenFrame cfg env slot).2 = quantised env cfg f.packet := by
  obtain ⟨batch, i⟩ := slot
  have enqueued := (mem_slots cfg queued batch i).mp member
  obtain ⟨buffer, _, recorded⟩ := (recording.finished batch enqueued).kept f inPackets i same
  have header := recorded recording.baseband
  exact ⟨recorded_readable env cfg recording.baseband f _ (recording.clear f inPackets) header _,
    recorded_packet_id cfg f _ recording.baseband (recording.fits f inPackets) header, by rw [writtenFrame, buffer]⟩

theorem slots_readable (env : RecorderEnv) (packets : List Frame) (queued : List (PacketBatch cfg.batchsize))
    (recording : BasebandRun cfg env packets queued) (first len : Nat)
    (enqueued : EnqueuedIds cfg packets queued first len)
    (chosen : List (PacketBatch cfg.batchsize × Fin cfg.batchsize)) (start : chosen <+: slots cfg queued)
    (complete : ∀ slot ∈ chosen, ∃ f ∈ packets, f.packetId = slotId cfg slot) :
    ReadableRun (writtenFormat cfg) (chosen.map (writtenFrame cfg env)) := by
  have ids : ∀ slot ∈ chosen, Readable (writtenFormat cfg) (writtenFrame cfg env slot) ∧
      (writtenFrame cfg env slot).1.packetId = slotId cfg slot := by
    intro slot member
    obtain ⟨f, inPackets, same⟩ := complete slot member
    obtain ⟨readable, id, _⟩ := written_packet cfg env packets queued recording slot (start.mem member) f inPackets same
    exact ⟨readable, id.trans same⟩
  constructor
  · intro frame member
    obtain ⟨slot, inChosen, rfl⟩ := List.mem_map.mp member
    exact (ids slot inChosen).1
  · have all : ((slots cfg queued).map (slotId cfg)).IsChain fun a b => b = a + 1 := by
      rw [enqueued.ids]
      exact List.isChain_range' first len 1
    have some : (chosen.map (slotId cfg)).IsChain fun a b => b = a + 1 := all.prefix (start.map _)
    rw [List.isChain_map] at some ⊢
    refine List.IsChain.imp_of_mem_imp ?_ some
    intro a b inA inB next
    rw [(ids a inA).2, (ids b inB).2]
    exact next

theorem missing_legacy (env : RecorderEnv) (packets : List Frame) (queued : List (PacketBatch cfg.batchsize))
    (recording : BasebandRun cfg env packets queued) (slot : PacketBatch cfg.batchsize × Fin cfg.batchsize)
    (member : slot ∈ slots cfg queued) (missing : ¬ ∃ f ∈ packets, f.packetId = slotId cfg slot) :
    (readBack (writtenFrame cfg env slot).1).legacy = true := by
  obtain ⟨batch, i⟩ := slot
  have enqueued := (mem_slots cfg queued batch i).mp member
  obtain ⟨_, header, filled⟩ := (recording.finished batch enqueued).filled recording.baseband i
    fun f inPackets same => missing ⟨f, inPackets, same⟩
  rw [read_back_legacy, writtenFrame, filled]
  exact VDIF.set_invalid_get _

theorem in_enqueued_slot (queued : List (PacketBatch cfg.batchsize)) (f : Frame) :
    inEnqueued cfg queued f = true ↔ ∃ slot ∈ slots cfg queued, slotId cfg slot = f.packetId := by
  constructor
  · intro listed
    obtain ⟨batch, member, same⟩ := List.any_eq_true.mp listed
    refine ⟨(batch, cfg.slot f.packetId), (mem_slots cfg queued batch _).mpr member, ?_⟩
    rw [slotId, beq_iff_eq.mp same]
    exact (id_of_slot cfg f.packetId).symm
  · rintro ⟨⟨batch, i⟩, member, same⟩
    refine List.any_eq_true.mpr ⟨batch, (mem_slots cfg queued batch i).mp member, beq_iff_eq.mpr ?_⟩
    exact (id_in_batch cfg f.packetId batch.batchId i same.symm).1.symm

-- Without loss the accepted packets of the enqueued batches have the ids of
-- the written frames, in the same order.
theorem lossless_ids (env : RecorderEnv) (packets : List Frame) (queued : List (PacketBatch cfg.batchsize))
    (recording : BasebandRun cfg env packets queued) (first len : Nat)
    (enqueued : EnqueuedIds cfg packets queued first len)
    (complete : ∀ slot ∈ slots cfg queued, ∃ f ∈ packets, f.packetId = slotId cfg slot) :
    (slots cfg queued).map (slotId cfg) = (packets.filter (inEnqueued cfg queued)).map Frame.packetId := by
  rw [enqueued.ids]
  symm
  apply Keyed.ascending_range
  · exact List.pairwise_map.mpr (recording.ordered.filter _)
  · intro id
    rw [← List.mem_range'_1, ← enqueued.ids]
    simp only [List.mem_map, List.mem_filter, in_enqueued_slot]
    constructor
    · rintro ⟨f, ⟨_, slot, member, same⟩, rfl⟩
      exact ⟨slot, member, same⟩
    · rintro ⟨slot, member, rfl⟩
      obtain ⟨f, inPackets, same⟩ := complete slot member
      exact ⟨f, ⟨inPackets, slot, member, same.symm⟩, same⟩

theorem lossless_round_trip (env : RecorderEnv) (packets : List Frame) (queued : List (PacketBatch cfg.batchsize))
    (recording : BasebandRun cfg env packets queued) (first len : Nat)
    (enqueued : EnqueuedIds cfg packets queued first len)
    (complete : ∀ slot ∈ slots cfg queued, ∃ f ∈ packets, f.packetId = slotId cfg slot) :
    RoundTrip cfg env packets queued (afterRun (writtenFormat cfg) (writtenFrames cfg env queued), none) := by
  refine ⟨rfl, rfl, rfl, rfl, rfl, ?_, ?_⟩
  · symm
    refine List.countP_eq_zero.mpr ?_
    intro slot member
    obtain ⟨f, inPackets, same⟩ := complete slot member
    simp only [List.all_eq_true, bne_iff_ne, not_forall, not_not]
    exact ⟨f, inPackets, same⟩
  · change List.map _ (List.map _ (List.map _ (slots cfg queued))) = _
    rw [List.map_map, List.map_map]
    refine Keyed.map_eq_of_keys _ _ (slotId cfg) Frame.packetId _ _
      (lossless_ids cfg env packets queued recording first len enqueued complete) ?_
    intro slot member f chosen same
    have inPackets := (List.mem_filter.mp chosen).1
    obtain ⟨_, id, payload⟩ := written_packet cfg env packets queued recording slot member f inPackets same.symm
    simp only [Function.comp_apply, read_back_packet_id, id, payload]

theorem lossy_error (env : RecorderEnv) (packets : List Frame) (queued : List (PacketBatch cfg.batchsize))
    (recording : BasebandRun cfg env packets queued) (first len : Nat)
    (enqueued : EnqueuedIds cfg packets queued first len)
    (gap : ¬ ∀ slot ∈ slots cfg queued, ∃ f ∈ packets, f.packetId = slotId cfg slot)
    (groups : List (List (PacketBatch cfg.batchsize))) (whole : groups.flatten = queued)
    (paths : List (String × List Byte)) (parts : paths.map Prod.snd = groups.map (partBytes env cfg)) :
    (iterVdifFrames roundTripOptions (afterRun (writtenFormat cfg) []) paths).2.isSome = true := by
  classical
  obtain ⟨slot, member, missing⟩ : ∃ slot ∈ slots cfg queued, ¬ ∃ f ∈ packets, f.packetId = slotId cfg slot := by
    simpa only [not_forall, exists_prop] using gap
  obtain ⟨before, bad, rest, split, fine, broken⟩ :=
    Keyed.first_failing (fun slot => ∃ f ∈ packets, f.packetId = slotId cfg slot) _ slot member missing
  have run := slots_readable cfg env packets queued recording first len enqueued before ⟨_, split.symm⟩ fine
  have legacy := missing_legacy cfg env packets queued recording bad (by rw [split]; simp) broken
  refine read_parts_legacy (writtenFormat cfg) [] (before.map (writtenFrame cfg env)) (rest.map (writtenFrame cfg env))
    (writtenFrame cfg env bad) (groups.map (writtenFrames cfg env)) paths ?_ ?_ run legacy
  · rw [parts, List.map_map]
    exact List.map_congr_left fun group _ => part_frames cfg env group
  · rw [written_flatten, whole, writtenFrames, split, List.map_append, List.map_cons]

theorem baseband_run (env : RecorderEnv) (events : List (RecvEvent cfg)) (st : RecvState cfg)
    (baseband : cfg.basebandMode = true) (run : recv2mem cfg events = .ok st)
    (clear : ∀ f ∈ accepted cfg (arrivals cfg events), f.vdif.getInvalid = false ∧ f.vdif.getLegacy = false)
    (fits : ∀ f ∈ accepted cfg (arrivals cfg events), f.packetId < 2 ^ 30 * VDIF.framesPerSecond) :
    BasebandRun cfg env (accepted cfg (arrivals cfg events)) st.queued := by
  obtain ⟨stored, phase⟩ := recv_run_inv cfg events st run
  rw [← stored] at clear fits ⊢
  rcases phase with idle | ⟨origin, running⟩
  · refine ⟨baseband, clear, fits, ?_, ?_⟩
    · rw [idle.stored]
      exact List.Pairwise.nil
    · simp [idle.queued]
  · exact ⟨baseband, clear, fits, running.batches.ordered, running.batches.finished⟩

theorem queue_bounded (packets : List Frame) (queued : List (PacketBatch cfg.batchsize)) (first len : Nat)
    (fits : ∀ f ∈ packets, f.packetId < 2 ^ 30 * VDIF.framesPerSecond)
    (enqueued : EnqueuedIds cfg packets queued first len) : queued.length * batchRecordBytes cfg ≤ 2 ^ 60 := by
  have frame : VDIF.frameBytes cfg.basebandBits ≤ 8224 := by
    rcases cfg.basebandBitsAccepted with bits | bits | bits <;> rw [bits] <;> decide
  have ids : len ≤ 2 ^ 30 * 62500 := by
    rcases enqueued.reach with none | ⟨g, member, reach⟩
    · omega
    · have below : g.packetId < 2 ^ 30 * 62500 := fits g member
      omega
  calc queued.length * batchRecordBytes cfg = len * VDIF.frameBytes cfg.basebandBits := by
        rw [batchRecordBytes, ← Nat.mul_assoc, enqueued.size]
    _ ≤ 2 ^ 30 * 62500 * 8224 := Nat.mul_le_mul ids frame
    _ ≤ 2 ^ 60 := by decide

-- The recorder completes, and reading its parts back gives the whole round
-- trip or, after a loss, an error.
theorem reading_outcome (env : RecorderEnv) (works : env.Working) (events : List (RecvEvent cfg)) (st : RecvState cfg)
    (run : recv2mem cfg events = .ok st)
    (recording : BasebandRun cfg env (accepted cfg (arrivals cfg events)) st.queued) :
    ∃ r, record env cfg st.queued = .ok r ∧ ∀ paths : List (String × List Byte), paths.map Prod.snd = r.parts →
      (Lossless cfg (accepted cfg (arrivals cfg events)) →
        RoundTrip cfg env (accepted cfg (arrivals cfg events)) st.queued (iterVdifFrames roundTripOptions {} paths)) ∧
      (¬ Lossless cfg (accepted cfg (arrivals cfg events)) →
        (iterVdifFrames roundTripOptions {} paths).2.isSome = true) := by
  obtain ⟨first, len, enqueued⟩ := enqueued_ids cfg events st run
  have bounded := queue_bounded cfg _ st.queued first len recording.fits enqueued
  obtain ⟨r, groups, completed, whole, parts⟩ := record_parts env cfg works st.queued bounded
  refine ⟨r, completed, fun paths content => ?_⟩
  rw [parts] at content
  have fresh : ({} : ReadState) = afterRun (writtenFormat cfg) [] := rfl
  rw [lossless_iff cfg _ st.queued first len enqueued, fresh]
  constructor
  · intro complete
    have frames : paths.map Prod.snd = (groups.map (writtenFrames cfg env)).map (List.flatMap WrittenFrame.bytes) := by
      rw [content, List.map_map]
      exact List.map_congr_left fun group _ => part_frames cfg env group
    have readable := slots_readable cfg env _ st.queued recording first len enqueued (slots cfg st.queued)
      (List.prefix_refl _) complete
    have read := read_parts_run (writtenFormat cfg) [] _ paths frames
      (by rw [List.nil_append, written_flatten, whole]; exact readable)
    rw [read, List.nil_append, written_flatten, whole]
    exact lossless_round_trip cfg env _ st.queued recording first len enqueued complete
  · intro gap
    exact lossy_error cfg env _ st.queued recording first len enqueued gap groups whole paths content

end

theorem recording_round_trip (cfg : StreamConfig) (env : RecorderEnv) (works : env.Working)
    (events : List (RecvEvent cfg)) (st : RecvState cfg) (baseband : cfg.basebandMode = true)
    (run : recv2mem cfg events = .ok st)
    (clear : ∀ f ∈ accepted cfg (arrivals cfg events), f.vdif.getInvalid = false ∧ f.vdif.getLegacy = false)
    (fits : ∀ f ∈ accepted cfg (arrivals cfg events), f.packetId < 2 ^ 30 * VDIF.framesPerSecond) :
    ∃ r, record env cfg st.queued = .ok r ∧ ∀ paths : List (String × List Byte), paths.map Prod.snd = r.parts →
      (RoundTrip cfg env (accepted cfg (arrivals cfg events)) st.queued (iterVdifFrames roundTripOptions {} paths) ↔
        Lossless cfg (accepted cfg (arrivals cfg events))) := by
  obtain ⟨r, completed, outcome⟩ :=
    reading_outcome cfg env works events st run (baseband_run cfg env events st baseband run clear fits)
  refine ⟨r, completed, fun paths content => ?_⟩
  obtain ⟨complete, gap⟩ := outcome paths content
  constructor
  · intro round
    by_contra lossy
    have error := gap lossy
    rw [round.noError] at error
    cases error
  · exact complete

theorem iov_max_positive : 0 < 1024 := by decide

def workingDisk : RecorderEnv where
  iovMax := 1024
  iovMaxPos := iov_max_positive
  avx512 := false
  createFile := fun _ => .ok ()
  writev := fun _ => .written 1000000

theorem working_disk_works : workingDisk.Working :=
  ⟨fun _ => rfl, fun _ => ⟨1000000, by decide, rfl⟩⟩

theorem sample_frame_flags (packetId : Nat) :
    (sampleFrame packetId).vdif.getInvalid = false ∧ (sampleFrame packetId).vdif.getLegacy = false := by
  rw [sampleFrame, assemble_vdif, VDIF.getInvalid, VDIF.getLegacy,
    VDIF.set_packet_id_flag VDIF.zero packetId 30 (Or.inl rfl), VDIF.set_packet_id_flag VDIF.zero packetId 31 (Or.inr rfl)]
  decide

theorem lossy_clear : ∀ f ∈ accepted sampleStream (arrivals sampleStream lossyEvents),
    f.vdif.getInvalid = false ∧ f.vdif.getLegacy = false := by
  intro f member
  rw [lossy_accepted] at member
  simp only [List.mem_cons, List.not_mem_nil, or_false] at member
  rcases member with rfl | rfl
  · exact sample_frame_flags 0
  · exact sample_frame_flags 16

theorem lossy_fits : ∀ f ∈ accepted sampleStream (arrivals sampleStream lossyEvents),
    f.packetId < 2 ^ 30 * VDIF.framesPerSecond := by
  intro f member
  rw [lossy_accepted] at member
  simp only [List.mem_cons, List.not_mem_nil, or_false] at member
  rcases member with rfl | rfl
  · rw [sample_frame_id 0 (by decide)]
    decide
  · rw [sample_frame_id 16 (by decide)]
    decide

theorem lossy_not_lossless : ¬ Lossless sampleStream (accepted sampleStream (arrivals sampleStream lossyEvents)) := by
  intro lossless
  have first : (sampleFrame 0).packetId = 0 := sample_frame_id 0 (by decide)
  have second : (sampleFrame 16).packetId = 16 := sample_frame_id 16 (by decide)
  have both := lossy_accepted
  obtain ⟨p, member, same⟩ := lossless (sampleFrame 0) (by rw [both]; simp) (sampleFrame 16) (by rw [both]; simp) 1
    (by rw [first]; decide) (by rw [second]; decide)
  exact lossy_missing 1 (by decide) (by decide) p member same

-- Packets 0 and 16 of a stream with batches of 16: reading the recording of
-- batch 0 ends with an error at its second frame.
theorem recording_round_trip_fails :
    accepted sampleStream (arrivals sampleStream lossyEvents) = [sampleFrame 0, sampleFrame 16] ∧
    (∀ id, (sampleFrame id).vdif.getInvalid = false ∧ (sampleFrame id).vdif.getLegacy = false) ∧
    ∃ st r, recv2mem sampleStream lossyEvents = .ok st ∧ record workingDisk sampleStream st.queued = .ok r ∧
    ∀ paths : List (String × List Byte), paths.map Prod.snd = r.parts →
      ¬ RoundTrip sampleStream workingDisk (accepted sampleStream (arrivals sampleStream lossyEvents)) st.queued
        (iterVdifFrames roundTripOptions {} paths) := by
  obtain ⟨st, run⟩ := recv2mem_total sampleStream (Or.inl rfl) lossyEvents
  obtain ⟨r, completed, outcome⟩ := reading_outcome sampleStream workingDisk working_disk_works lossyEvents st run
    (baseband_run sampleStream workingDisk lossyEvents st rfl run lossy_clear lossy_fits)
  refine ⟨lossy_accepted, sample_frame_flags, st, r, run, completed, fun paths content round => ?_⟩
  have error := (outcome paths content).2 lossy_not_lossless
  rw [round.noError] at error
  cases error

theorem recording_round_trip_sample : ∃ st r, recv2mem sampleStream lossyEvents = .ok st ∧
    record workingDisk sampleStream st.queued = .ok r ∧
    ∀ paths : List (String × List Byte), paths.map Prod.snd = r.parts →
      (RoundTrip sampleStream workingDisk (accepted sampleStream (arrivals sampleStream lossyEvents)) st.queued
        (iterVdifFrames roundTripOptions {} paths) ↔
        Lossless sampleStream (accepted sampleStream (arrivals sampleStream lossyEvents))) := by
  obtain ⟨st, run⟩ := recv2mem_total sampleStream (Or.inl rfl) lossyEvents
  obtain ⟨r, completed, outcome⟩ := recording_round_trip sampleStream workingDisk working_disk_works lossyEvents st rfl run
    lossy_clear lossy_fits
  exact ⟨st, r, run, completed, outcome⟩

end SpectralLine
