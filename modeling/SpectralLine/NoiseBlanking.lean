import SpectralLine.NoiseReference
import SpectralLine.FirstPacket
import SpectralLine.SendData
import SpectralLine.Lib.SquareWave
import SpectralLine.Lib.Circular

set_option autoImplicit false

namespace SpectralLine

-- What init_from_yaml checks.
structure NoiseSourceConfig.Accepted (noise : NoiseSourceConfig) : Prop where
  period : 0 < noise.periodMs
  dutyLow : 0 < noise.dutyCycle
  dutyHigh : noise.dutyCycle < 100
  blank : 0 ≤ noise.transitionBlankMs

-- The configured source in ns, with a phase of its own.
def sourceWave (noise : NoiseSourceConfig) (accepted : noise.Accepted) (origin : ℚ) : SquareWave ℚ where
  origin
  period := noise.periodMs * 1000000
  onTime := noise.periodMs * 1000000 * noise.dutyCycle / 100
  rises := by
    have period := accepted.period
    have duty := accepted.dutyLow
    positivity
  falls := by
    have period := accepted.period
    have duty := accepted.dutyHigh
    have scaled : noise.periodMs * 1000000 * noise.dutyCycle < noise.periodMs * 1000000 * 100 :=
      mul_lt_mul_of_pos_left duty (by positivity)
    linarith

def blankNs (noise : NoiseSourceConfig) : ℚ := noise.transitionBlankMs * 1000000

-- What cutting the period and the on-time to whole ns adds up to: nothing when
-- they are whole.
def truncationNs (noise : NoiseSourceConfig) (elapsedNs : Nat) : ℚ :=
  ((elapsedNs / noisePeriodNs noise : Nat) : ℚ) * (noise.periodMs * 1000000 - noisePeriodNs noise) +
    (noise.periodMs * 1000000 * noise.dutyCycle / 100 - noiseOnNs noise)

theorem whole_below (x : ℚ) (nonneg : 0 ≤ x) : ((⌊x⌋.toNat : Nat) : ℚ) ≤ x := by
  have floor := Int.floor_le x
  have cast : ((⌊x⌋.toNat : Nat) : ℚ) = (⌊x⌋ : ℚ) := by
    rw [← Int.cast_natCast, Int.toNat_of_nonneg (Int.floor_nonneg.mpr nonneg)]
  rwa [cast]

theorem below_whole_succ (x : ℚ) : x ≤ ((⌊x⌋.toNat + 1 : Nat) : ℚ) := by
  have floor := (Int.lt_floor_add_one x).le
  have cast : (⌊x⌋ : ℚ) ≤ ((⌊x⌋.toNat : Nat) : ℚ) := by
    rw [← Int.cast_natCast]
    exact Int.cast_le.mpr (Int.self_le_toNat _)
  push_cast
  linarith

section

variable (noise : NoiseSourceConfig) (accepted : noise.Accepted) (origin : ℚ)

include accepted in
theorem period_cut : (noisePeriodNs noise : ℚ) ≤ noise.periodMs * 1000000 := by
  have period := accepted.period
  exact whole_below _ (by positivity)

include accepted in
theorem on_time_cut : (noiseOnNs noise : ℚ) ≤ noise.periodMs * 1000000 * noise.dutyCycle / 100 := by
  have duty := accepted.dutyLow
  have cut : (noiseOnNs noise : ℚ) ≤ (noisePeriodNs noise : ℚ) * noise.dutyCycle / 100 :=
    whole_below _ (by positivity)
  have scaled : (noisePeriodNs noise : ℚ) * noise.dutyCycle ≤ noise.periodMs * 1000000 * noise.dutyCycle :=
    mul_le_mul_of_nonneg_right (period_cut noise accepted) duty.le
  linarith

end

section

variable {𝕜 : Type} (cfg : GpuConfig 𝕜)

theorem sub64_later (t r : Nat) (order : r ≤ t) (fits : t < 2 ^ 64) : sub64 t r = t - r := by
  rw [sub64]
  omega

theorem noise_on_short (noise : NoiseSourceConfig) (positive : 0 < noisePeriodNs noise) (dutyHigh : noise.dutyCycle < 100) :
    noiseOnNs noise < noisePeriodNs noise := by
  have scaled : (noisePeriodNs noise : ℚ) * noise.dutyCycle < noisePeriodNs noise * 100 :=
    mul_lt_mul_of_pos_left dutyHigh (Nat.cast_pos.mpr positive)
  have below : ⌊(noisePeriodNs noise : ℚ) * noise.dutyCycle / 100⌋ < (noisePeriodNs noise : ℤ) := by
    rw [Int.floor_lt, Int.cast_natCast]
    linarith
  rw [noiseOnNs]
  omega

theorem clear_phase (st : GpuPfbFft cfg) (t : Nat) (set : st.noiseCycleStartNs ≠ 0) (order : st.noiseCycleStartNs ≤ t)
    (fits : t < 2 ^ 64) (positive : 0 < noisePeriodNs cfg.noiseSource) (clear : isNoiseBlank cfg st t = false) :
    let phase := (t - st.noiseCycleStartNs) % noisePeriodNs cfg.noiseSource
    noiseBlankNs cfg.noiseSource + 1 ≤ phase ∧ phase + (noiseBlankNs cfg.noiseSource + 1) ≤ noisePeriodNs cfg.noiseSource ∧
    (phase + (noiseBlankNs cfg.noiseSource + 1) ≤ noiseOnNs cfg.noiseSource ∨
      noiseOnNs cfg.noiseSource + (noiseBlankNs cfg.noiseSource + 1) ≤ phase) := by
  have inside := Nat.mod_lt (t - st.noiseCycleStartNs) positive
  rw [isNoiseBlank, if_neg set, sub64_later t _ order fits] at clear
  simp only [decide_eq_false_iff_not, not_le, lt_min_iff] at clear
  obtain ⟨⟨rise, next⟩, fall⟩ := clear
  refine ⟨rise, by omega, ?_⟩
  split at fall
  · right
    omega
  · left
    omega

-- A reference within `error` of a true rise keeps the blocks it lets through
-- away from every transition.
theorem clear_of_transitions (accepted : cfg.noiseSource.Accepted) (origin : ℚ) (st : GpuPfbFft cfg) (t : Nat)
    (set : st.noiseCycleStartNs ≠ 0) (order : st.noiseCycleStartNs ≤ t) (fits : t < 2 ^ 64)
    (positive : 0 < noisePeriodNs cfg.noiseSource) (clear : isNoiseBlank cfg st t = false) (k : ℤ) (error : ℚ)
    (late : (st.noiseCycleStartNs : ℚ) < (sourceWave cfg.noiseSource accepted origin).rise k + error)
    (early : (sourceWave cfg.noiseSource accepted origin).rise k < st.noiseCycleStartNs + error) (x : ℚ)
    (transition : (sourceWave cfg.noiseSource accepted origin).Transition x) :
    blankNs cfg.noiseSource - error - truncationNs cfg.noiseSource (t - st.noiseCycleStartNs) < |(t : ℚ) - x| := by
  obtain ⟨rise, next, fall⟩ := clear_phase cfg st t set order fits positive clear
  have time : (t : ℚ) = st.noiseCycleStartNs +
      ((t - st.noiseCycleStartNs) / noisePeriodNs cfg.noiseSource : Nat) * noisePeriodNs cfg.noiseSource +
      ((t - st.noiseCycleStartNs) % noisePeriodNs cfg.noiseSource : Nat) := by
    have whole := Nat.div_add_mod' (t - st.noiseCycleStartNs) (noisePeriodNs cfg.noiseSource)
    exact_mod_cast (show t = st.noiseCycleStartNs +
      (t - st.noiseCycleStartNs) / noisePeriodNs cfg.noiseSource * noisePeriodNs cfg.noiseSource +
      (t - st.noiseCycleStartNs) % noisePeriodNs cfg.noiseSource by omega)
  have far := (sourceWave cfg.noiseSource accepted origin).clear_of_phase k
    ((t - st.noiseCycleStartNs) / noisePeriodNs cfg.noiseSource) st.noiseCycleStartNs (noisePeriodNs cfg.noiseSource)
    (noiseOnNs cfg.noiseSource) ((t - st.noiseCycleStartNs) % noisePeriodNs cfg.noiseSource : Nat)
    ((noiseBlankNs cfg.noiseSource + 1 : Nat) : ℚ) error (period_cut cfg.noiseSource accepted)
    (on_time_cut cfg.noiseSource accepted) late early (by exact_mod_cast rise) (by exact_mod_cast next)
    (by exact_mod_cast fall) x transition
  rw [← time] at far
  have cut : blankNs cfg.noiseSource ≤ ((noiseBlankNs cfg.noiseSource + 1 : Nat) : ℚ) := below_whole_succ _
  rw [truncationNs]
  exact lt_of_le_of_lt (sub_le_sub_right (sub_le_sub_right cut error) _) far

-- Time runs on at 16 us for each packet from the start of the batch.
def packetTimeNs (size : Nat) (f : Frame) : Nat :=
  (f.vdif.setPacketId (f.packetId / size * size)).timestampNs + frameNs * (f.packetId % size)

-- The enqueued batches of a receive thread whose packets carry the state of
-- the source at their time.
inductive ObservedBy (wave : SquareWave ℚ) : (size : Nat) → List (PacketBatch size) → Prop
  | run (stream : StreamConfig) (events : List (RecvEvent stream)) (st : RecvState stream)
      (gpu : stream.basebandMode = false) (done : recv2mem stream events = .ok st)
      (truthful : ∀ f ∈ st.stored, noiseStateOf (metadataOf stream f).noiseSourceState = .on ↔
        wave.High (packetTimeNs stream.batchsize f)) : ObservedBy wave stream.batchsize st.queued

theorem received_shows (wave : SquareWave ℚ) (size : Nat) (queue : List (PacketBatch size))
    (observed : ObservedBy wave size queue) (batch : PacketBatch size) (member : batch ∈ queue)
    (received : batch.receivedCount ≠ 0) (first : Fin size) (zero : first.val = 0) :
    ∃ index < size, noiseStateOf (batch.noiseState first) = .on ↔
      wave.High (((batch.hdrs first).timestampNs + frameNs * index : Nat) : ℚ) := by
  cases observed with
  | run stream events st gpu done truthful =>
      obtain rfl : stream.firstSlot = first := Fin.ext zero.symm
      obtain ⟨f, stored, shown⟩ := queued_opened stream gpu events st done batch member received
      refine ⟨f.packetId % stream.batchsize, Nat.mod_lt _ stream.batchsizePos, ?_⟩
      rw [shown.noise, shown.header, ← shown.inBatch]
      exact truthful f stored

theorem align_member (pair last : Aligned cfg) (aligned : alignBatches cfg pair = .ok last) :
    (last.batchA :: last.queueA) <:+ (pair.batchA :: pair.queueA) := by
  fun_induction alignBatches cfg pair with
  | case1 pair same =>
      cases aligned
      exact List.suffix_refl _
  | case2 pair differ behind left => cases aligned
  | case3 pair differ behind batch rest left ih =>
      have later := ih aligned
      rw [left]
      exact later.trans (List.suffix_cons _ _)
  | case4 pair differ ahead left => cases aligned
  | case5 pair differ ahead batch rest left ih => exact ih aligned

theorem dequeue_member (queueA queueB : List (PacketBatch cfg.batchsize)) (pair : Aligned cfg)
    (aligned : dequeueAligned cfg queueA queueB = .ok pair) : (pair.batchA :: pair.queueA) <:+ queueA := by
  cases queueA with
  | nil => cases aligned
  | cons batchA queueA =>
      cases queueB with
      | nil => cases aligned
      | cons batchB queueB => exact align_member cfg _ pair aligned

theorem thread_member (st : GpuPfbFft cfg) (queueA queueB : List (PacketBatch cfg.batchsize)) (turn : WorkerTurn cfg)
    (member : turn ∈ (subbandThread cfg st queueA queueB).1) : turn.pair.batchA ∈ queueA := by
  fun_induction subbandThread cfg st queueA queueB with
  | case1 st queueA queueB halt stopped => cases member
  | case2 st queueA queueB first taken rest ih =>
      obtain ⟨state, aligned, _⟩ := turn_cases cfg st queueA queueB first taken
      have suffix := dequeue_member cfg queueA queueB first.pair aligned
      rcases List.mem_cons.mp member with rfl | later
      · exact suffix.subset (List.mem_cons_self ..)
      · exact suffix.subset (List.mem_cons_of_mem _ (ih later))

theorem turn_time (turns : List (WorkerTurn cfg)) (chain : Chain cfg (GpuPfbFft.initial cfg) turns) (i : Nat)
    (turn : WorkerTurn cfg) (found : turns[i]? = some turn) :
    turn.ready.timestampNs = (turn.pair.batchA.hdrs (firstSlotOf cfg)).timestampNs := by
  have time := turn_timestamp cfg turns _ chain i turn found
  rw [blockTimestampNs, header_timestamp] at time
  exact (Except.ok.inj time).symm

theorem thread_reference (cal : cfg.calMode = true) (queueA queueB : List (PacketBatch cfg.batchsize)) (i : Nat)
    (turn : WorkerTurn cfg) (found : (subbandThread cfg (GpuPfbFft.initial cfg) queueA queueB).1[i]? = some turn) :
    Reference cfg (subbandThread cfg (GpuPfbFft.initial cfg) queueA queueB).1 i turn := by
  have chain := thread_chain cfg (GpuPfbFft.initial cfg) queueA queueB
  refine reference_at cfg cal _ chain ?_ i turn found
  intro j other at_
  rw [turn_time cfg _ chain j other at_]
  exact (header_timestamp_range _).1.ne'

-- Between a block that showed OFF and a later one that shows ON lies a rise.
theorem rise_observed (wave : SquareWave ℚ) (queueA queueB : List (PacketBatch cfg.batchsize))
    (observed : ObservedBy wave cfg.batchsize queueA) (past edge : WorkerTurn cfg) (p j : Nat)
    (pastFound : (subbandThread cfg (GpuPfbFft.initial cfg) queueA queueB).1[p]? = some past)
    (edgeFound : (subbandThread cfg (GpuPfbFft.initial cfg) queueA queueB).1[j]? = some edge)
    (pastReceived : past.pair.batchA.receivedCount ≠ 0) (edgeReceived : edge.pair.batchA.receivedCount ≠ 0)
    (off : noiseBit cfg past = .off) (on : noiseBit cfg edge = .on)
    (order : past.ready.timestampNs + frameNs * cfg.batchsize ≤ edge.ready.timestampNs) :
    ∃ k, (past.ready.timestampNs : ℚ) < wave.rise k ∧
      wave.rise k < edge.ready.timestampNs + (frameNs * cfg.batchsize : Nat) := by
  have chain := thread_chain cfg (GpuPfbFft.initial cfg) queueA queueB
  have pastTime := turn_time cfg _ chain p past pastFound
  have edgeTime := turn_time cfg _ chain j edge edgeFound
  have pastMember := thread_member cfg _ queueA queueB past (List.mem_of_getElem? pastFound)
  have edgeMember := thread_member cfg _ queueA queueB edge (List.mem_of_getElem? edgeFound)
  obtain ⟨m, mInside, low⟩ := received_shows wave cfg.batchsize queueA observed _ pastMember pastReceived (firstSlotOf cfg) rfl
  obtain ⟨n, nInside, high⟩ := received_shows wave cfg.batchsize queueA observed _ edgeMember edgeReceived (firstSlotOf cfg) rfl
  rw [← pastTime] at low
  rw [← edgeTime] at high
  have notHigh : ¬ wave.High ((past.ready.timestampNs + frameNs * m : Nat) : ℚ) := by
    intro shown
    have contrary := low.mpr shown
    rw [show noiseStateOf _ = noiseBit cfg past from rfl, off] at contrary
    cases contrary
  simp only [frameNs] at *
  obtain ⟨k, after, before⟩ := wave.rise_between _ _ (by exact_mod_cast (show past.ready.timestampNs + 16000 * m ≤
    edge.ready.timestampNs + 16000 * n by omega)) notHigh (high.mp on)
  refine ⟨k, lt_of_le_of_lt ?_ after, lt_of_le_of_lt before ?_⟩
  · exact_mod_cast Nat.le_add_right _ _
  · exact_mod_cast (show edge.ready.timestampNs + 16000 * n < edge.ready.timestampNs + 16000 * cfg.batchsize by omega)

end

-- One packet for each batch, from the reference epoch on.
def noiseStream : StreamConfig := { spectralStream with calMode := true }

def noiseFrame (bits : Nat → Bool) (id : Nat) : Frame :=
  Frame.assemble noiseStream.destPort ((VDIF.zero.setNoiseSourceState (bits id)).setPacketId id) (Packet.memset 7)

def noiseGpu (blankMs : ℚ) : GpuConfig ℚ := { sampleGpu with calMode := true, noiseSource := ⟨1, 50, blankMs⟩ }

def noiseStartNs : Nat := 946684800000000000

theorem noise_frame_id (bits : Nat → Bool) (id : Nat) (fits : id < 2 ^ 30 * VDIF.framesPerSecond) :
    (noiseFrame bits id).packetId = id := by
  rw [Frame.packetId, noiseFrame, assemble_vdif]
  exact VDIF.set_packet_id_round_trip _ id fits

theorem noise_frame_state (bits : Nat → Bool) (id : Nat) :
    noiseStateOf (metadataOf noiseStream (noiseFrame bits id)).noiseSourceState = if bits id then .on else .off := by
  have state : (metadataOf noiseStream (noiseFrame bits id)).noiseSourceState =
      ((VDIF.zero.setNoiseSourceState (bits id)).getWord 7 &&& 0x1#32).setWidth 8 := by
    rw [metadataOf, noiseFrame, assemble_vdif, ← VDIF.set_packet_id_word _ id 7 (by decide) (by decide)]
    rfl
  rw [state]
  cases bits id <;> decide

theorem first_second_fits {id : Nat} (small : id < VDIF.framesPerSecond) : id < 2 ^ 30 * VDIF.framesPerSecond :=
  lt_of_lt_of_le small (Nat.le_mul_of_pos_left _ (by decide))

theorem noise_frame_time (bits : Nat → Bool) (id : Nat) (small : id < VDIF.framesPerSecond) :
    ((noiseFrame bits id).vdif.setPacketId id).timestampNs = noiseStartNs + frameNs * id := by
  have fits := first_second_fits small
  rw [noiseFrame, assemble_vdif]
  generalize twice : ((VDIF.zero.setNoiseSourceState (bits id)).setPacketId id).setPacketId id = h
  have seconds : h.getSecondsFromEpoch.toNat = 0 := by
    rw [← twice, VDIF.set_packet_id_seconds _ _ fits]
    exact Nat.div_eq_of_lt small
  have frame : h.getFrameNumber.toNat = id := by
    rw [← twice, VDIF.set_packet_id_frame]
    exact Nat.mod_eq_of_lt small
  have epoch : h.getReferenceEpoch = 0#32 := by
    rw [← twice, VDIF.set_packet_id_epoch, VDIF.set_packet_id_epoch]
    cases bits id <;> decide
  have epochSec : h.epochSec = 946684800 := by
    simp only [VDIF.epochSec, epoch]
    rfl
  rw [VDIF.timestampNs, seconds, frame, epochSec]
  simp [leapLoop, utcPositiveLeapEffectiveUnixSec, nsPerSec, frameNs, noiseStartNs, Nat.mul_comm]

-- What the worker makes of five of these batches.
structure NoiseTurn (bits : Nat → Bool) (blankMs : ℚ) (id : Nat) (turn : WorkerTurn (noiseGpu blankMs)) : Prop where
  time : turn.ready.timestampNs = noiseStartNs + frameNs * id
  bit : noiseBit (noiseGpu blankMs) turn = if bits id then .on else .off
  received : turn.pair.batchA.receivedCount ≠ 0
  valid : turn.ready.currentPfbOutputValid = true ↔ 3 ≤ id

theorem noise_packet_time (bits : Nat → Bool) (id : Nat) (small : id < VDIF.framesPerSecond) :
    packetTimeNs 1 (noiseFrame bits id) = noiseStartNs + frameNs * id := by
  rw [packetTimeNs, noise_frame_id bits id (first_second_fits small), Nat.div_one, Nat.mul_one, noise_frame_time bits id small, Nat.mod_one, Nat.mul_zero,
    Nat.add_zero]

theorem noise_run (bits : Nat → Bool) (blankMs : ℚ) (wave : SquareWave ℚ)
    (truthful : ∀ id < 6, bits id = true ↔ wave.High ((noiseStartNs + frameNs * id : Nat) : ℚ)) :
    ∃ queue : List (PacketBatch (noiseGpu blankMs).batchsize), ObservedBy wave (noiseGpu blankMs).batchsize queue ∧
      ∀ id < 5, ∃ turn, (subbandThread (noiseGpu blankMs) (GpuPfbFft.initial _) queue queue).1[id]? = some turn ∧
        NoiseTurn bits blankMs id turn := by
  have small : ∀ id < 6, id < VDIF.framesPerSecond := fun id below => by simp only [VDIF.framesPerSecond]; omega
  obtain ⟨st, run, stored, ids, valid⟩ := numbered_queue noiseStream rfl rfl (noiseFrame bits) 5
    (fun id _ => addressed_assemble noiseStream _ _)
    (fun id below => noise_frame_id bits id (first_second_fits (small id below)))
  have size := congrArg List.length ids
  rw [List.length_map, List.length_range'] at size
  have opens := recv_run_open_inv noiseStream rfl _ st run
  have consecutive : Consecutive (noiseGpu blankMs) st.queued 0 := by
    change st.queued.map PacketBatch.batchId = List.range' 0 st.queued.length
    rw [size]
    exact ids
  obtain ⟨batches, flags⟩ := sound_thread (noiseGpu blankMs) st.queued consecutive valid
  refine ⟨st.queued, ObservedBy.run noiseStream _ st rfl run ?_, ?_⟩
  · intro f member
    rw [stored] at member
    obtain ⟨id, below, rfl⟩ := List.mem_map.mp member
    have inside : id < 6 := List.mem_range.mp below
    rw [noise_frame_state]
    change _ ↔ wave.High ((packetTimeNs 1 (noiseFrame bits id) : Nat) : ℚ)
    rw [noise_packet_time bits id (small id inside), ← truthful id inside]
    cases bits id <;> simp
  · intro id below
    have inside : id < (subbandThread (noiseGpu blankMs) (GpuPfbFft.initial _) st.queued st.queued).1.length := by
      have count := (congrArg List.length batches).trans size
      rw [List.length_map] at count
      exact lt_of_lt_of_eq below count.symm
    refine ⟨_, List.getElem?_eq_getElem inside, ?_⟩
    generalize shown : (subbandThread (noiseGpu blankMs) (GpuPfbFft.initial _) st.queued st.queued).1[id] = turn
    have found : (subbandThread (noiseGpu blankMs) (GpuPfbFft.initial _) st.queued st.queued).1[id]? = some turn := by
      rw [← shown]
      exact List.getElem?_eq_getElem inside
    have queued : st.queued[id]? = some turn.pair.batchA := by
      have place := congrArg (fun queue => queue[id]?) batches
      simp only [List.getElem?_map, found, Option.map_some] at place
      exact place.symm
    have member : turn.pair.batchA ∈ st.queued := List.mem_of_getElem? queued
    have batchId : turn.pair.batchA.batchId = id := by
      have number := consecutive_at (noiseGpu blankMs) st.queued 0 id _ consecutive queued
      rwa [Nat.zero_add] at number
    have received : turn.pair.batchA.receivedCount ≠ 0 := by
      rw [opens.full _ member (valid _ member)]
      exact Nat.one_ne_zero
    obtain ⟨f, kept, opener⟩ := opens.queued _ member received
    obtain rfl : f = noiseFrame bits id := by
      rw [stored] at kept
      obtain ⟨other, bound, rfl⟩ := List.mem_map.mp kept
      have number := opener.inBatch
      change (noiseFrame bits other).packetId / 1 = _ at number
      rw [noise_frame_id bits other (first_second_fits (small other (List.mem_range.mp bound))), Nat.div_one, batchId] at number
      rw [number]
    have header := opener.header
    change _ = (noiseFrame bits id).vdif.setPacketId (turn.pair.batchA.batchId * 1) at header
    refine ⟨?_, ?_, received, flags id turn found⟩
    · rw [turn_time _ _ (thread_chain _ _ _ _) id turn found, ← noise_frame_time bits id (small id (by omega))]
      rw [batchId, Nat.mul_one] at header
      exact congrArg VDIF.timestampNs header
    · rw [← noise_frame_state]
      exact congrArg noiseStateOf opener.noise

theorem noise_gpu_accepted (blankMs : ℚ) (nonneg : 0 ≤ blankMs) : (noiseGpu blankMs).noiseSource.Accepted where
  period := show (0 : ℚ) < 1 from one_pos
  dutyLow := show (0 : ℚ) < 50 by norm_num
  dutyHigh := show (50 : ℚ) < 100 by norm_num
  blank := nonneg

def edgeBlankMs : ℚ := 1 / 50

theorem edge_accepted : (noiseGpu edgeBlankMs).noiseSource.Accepted :=
  noise_gpu_accepted edgeBlankMs (by norm_num [edgeBlankMs])

def openBlankMs : ℚ := 1 / 10

theorem open_accepted : (noiseGpu openBlankMs).noiseSource.Accepted :=
  noise_gpu_accepted openBlankMs (by norm_num [openBlankMs])

end SpectralLine
