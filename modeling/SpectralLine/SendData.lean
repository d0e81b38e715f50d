import SpectralLine.WorkerRun
import SpectralLine.Pairing
import SpectralLine.PfbValidity
import SpectralLine.Batching

set_option autoImplicit false

namespace SpectralLine

-- The enqueued batches of a receive thread that feeds a GPU worker.
inductive ReceivedBy : (size : Nat) → List (PacketBatch size) → Prop
  | run (stream : StreamConfig) (events : List (RecvEvent stream)) (st : RecvState stream)
      (gpu : stream.basebandMode = false) (done : recv2mem stream events = .ok st) : ReceivedBy stream.batchsize st.queued

theorem received_ids (size : Nat) (queue : List (PacketBatch size)) (received : ReceivedBy size queue) :
    ∃ start, queue.map PacketBatch.batchId = List.range' start queue.length := by
  cases received with
  | run stream events st gpu done =>
      obtain ⟨_, phase⟩ := recv_run_inv stream events st done
      rcases phase with idle | ⟨origin, running⟩
      · exact ⟨0, by rw [idle.queued]; rfl⟩
      · have ids := running.batches.queue
        have size := congrArg List.length ids
        rw [List.length_map, List.length_range'] at size
        exact ⟨origin.packetId / stream.batchsize, by rw [ids, size]⟩

theorem received_header (size : Nat) (queue : List (PacketBatch size)) (received : ReceivedBy size queue)
    (batch : PacketBatch size) (member : batch ∈ queue) (first : Fin size) (zero : first.val = 0) :
    ∃ h : VDIF, batch.hdrs first = h.setPacketId (batch.batchId * size) := by
  cases received with
  | run stream events st gpu done =>
      obtain ⟨_, phase⟩ := recv_run_inv stream events st done
      obtain rfl : stream.firstSlot = first := Fin.ext zero.symm
      rcases phase with idle | ⟨origin, running⟩
      · rw [idle.queued] at member
        cases member
      · exact (running.batches.finished batch member).start gpu

section

variable {𝕜 : Type} (cfg : GpuConfig 𝕜)

-- The header fields of send_data that depend on the slot.
structure SpectrumHeader where
  timestampNs : Nat
  integrationStartNs : Nat
  noiseState : NoiseState

-- uint64_t sums.
def integrationCenterNs (first last periodNs : Nat) : Nat :=
  (first + (sub64 last first + periodNs) % 2 ^ 64 / 2) % 2 ^ 64

def sendHeader (result : IntegrationResult cfg) : Except String SpectrumHeader := do
  let delayNs ← pfbGroupDelayNs numTaps cfg.nfft samplingRate
  let centerNs := integrationCenterNs result.firstTimestampNs result.lastTimestampNs (fftPeriodNs cfg.nfft)
  return {
    timestampNs := compensateDelayNs centerNs delayNs
    integrationStartNs := compensateDelayNs result.firstTimestampNs delayNs
    noiseState := result.noiseState }

theorem send_header_batch (result : IntegrationResult cfg) :
    sendHeader cfg result = .ok {
      timestampNs := compensateDelayNs (integrationCenterNs result.firstTimestampNs result.lastTimestampNs
        (16000 * cfg.batchsize)) (24000 * cfg.batchsize)
      integrationStartNs := compensateDelayNs result.firstTimestampNs (24000 * cfg.batchsize)
      noiseState := result.noiseState } := by
  rw [sendHeader, show numTaps = 4 from rfl, pfb_group_delay_batch cfg.batchsize cfg.batchsizePos, fft_period_ns_batch]
  rfl

theorem center_of_span (first last period count : Nat) (positive : 0 < count) (span : last = first + (count - 1) * period)
    (small : last + period < 2 ^ 64) : integrationCenterNs first last period = first + period * count / 2 := by
  obtain ⟨steps, rfl⟩ : ∃ steps, count = steps + 1 := ⟨count - 1, by omega⟩
  have whole : (steps + 1) * period = steps * period + period := Nat.succ_mul _ _
  rw [Nat.add_sub_cancel] at span
  have difference : sub64 last first = steps * period := by
    rw [sub64]
    omega
  rw [integrationCenterNs, difference, Nat.mul_comm period, whole]
  omega

def headerOf (batch : PacketBatch cfg.batchsize) : VDIF := batch.hdrs (firstSlotOf cfg)

-- A batch whose packets count their seconds from the given epoch, in the 30
-- bits of the seconds field.
def InEpoch (epochSec : Nat) (batch : PacketBatch cfg.batchsize) : Prop :=
  (headerOf cfg batch).epochSec = epochSec ∧ batch.batchId * cfg.batchsize < 2 ^ 30 * VDIF.framesPerSecond

theorem block_timestamp (batch : PacketBatch cfg.batchsize) (epochSec timestampNs : Nat) (h : VDIF)
    (stamped : headerOf cfg batch = h.setPacketId (batch.batchId * cfg.batchsize)) (inEpoch : InEpoch cfg epochSec batch)
    (found : blockTimestampNs cfg batch = .ok timestampNs) :
    timestampNs = packetTimestampNs epochSec (batch.batchId * cfg.batchsize) := by
  obtain ⟨epoch, fits⟩ := inEpoch
  rw [blockTimestampNs, header_timestamp] at found
  have same := Except.ok.inj found
  rw [← headerOf, epoch, stamped, VDIF.set_packet_id_seconds h _ fits, VDIF.set_packet_id_frame] at same
  exact same.symm

-- A result of consecutive turns, with consecutive batches.
structure Spans (turns : List (WorkerTurn cfg)) (result : IntegrationResult cfg) (first batch : Nat) : Prop where
  turn : ∀ j < cfg.accLen, ∃ turn, turns[first + j]? = some turn ∧ turn.pair.batchA.batchId = batch + j
  firstNs : ∀ turn, turns[first]? = some turn → result.firstTimestampNs = turn.ready.timestampNs
  lastNs : ∀ turn, turns[first + (cfg.accLen - 1)]? = some turn → result.lastTimestampNs = turn.ready.timestampNs

def SharesEpoch (turns : List (WorkerTurn cfg)) (first count epochSec : Nat) : Prop :=
  ∀ j < count, ∀ turn, turns[first + j]? = some turn → InEpoch cfg epochSec turn.pair.batchA

def batchSecond (batch : Nat) : Nat := batch * cfg.batchsize / VDIF.framesPerSecond

variable [Field 𝕜]

theorem entry_spans (turns : List (WorkerTurn cfg)) (start : Nat)
    (ids : Consecutive cfg (turns.map fun turn => turn.pair.batchA) start) (plain : cfg.calMode = false)
    (result : IntegrationResult cfg) (entry : NoiseState × List Nat)
    (composes : Composes cfg (turnBlock cfg turns) result entry)
    (integrated : Integrated cfg (turnBlock cfg turns) entry turns.length) :
    ∃ first, entry.2 = List.range' first cfg.accLen ∧ Spans cfg turns result first (start + first) := by
  obtain ⟨first, last, head, final, inside, _, _, _, consecutive⟩ := integrated
  have members := consecutive plain
  have positive := cfg.accLenPos
  have nonzero : cfg.accLen ≠ 0 := by omega
  have end_ : last = first + (cfg.accLen - 1) := by
    rw [members, List.getLast?_range', if_neg nonzero] at final
    have same := Option.some.inj final
    omega
  refine ⟨first, members, ?_, ?_, ?_⟩
  · intro j below
    have bound : first + j < turns.length := by omega
    refine ⟨turns[first + j], List.getElem?_eq_getElem bound, ?_⟩
    rw [Nat.add_assoc]
    exact consecutive_at cfg _ start (first + j) _ ids (by rw [List.getElem?_map, List.getElem?_eq_getElem bound]; rfl)
  · intro turn found
    rw [composes.first first head]
    simp only [turnBlock, found]
  · intro turn found
    rw [composes.last last final, end_]
    simp only [turnBlock, found]

def Stamped (turns : List (WorkerTurn cfg)) : Prop :=
  ∀ (i : Nat) (turn : WorkerTurn cfg), turns[i]? = some turn →
    blockTimestampNs cfg turn.pair.batchA = .ok turn.ready.timestampNs ∧
    ∃ h : VDIF, headerOf cfg turn.pair.batchA = h.setPacketId (turn.pair.batchA.batchId * cfg.batchsize)

omit [Field 𝕜] in
theorem stamped_time (turns : List (WorkerTurn cfg)) (stamped : Stamped cfg turns) (first count epochSec j : Nat)
    (epoch : SharesEpoch cfg turns first count epochSec) (below : j < count) (turn : WorkerTurn cfg)
    (found : turns[first + j]? = some turn) :
    turn.ready.timestampNs = packetTimestampNs epochSec (turn.pair.batchA.batchId * cfg.batchsize) := by
  obtain ⟨time, h, header⟩ := stamped _ turn found
  exact block_timestamp cfg _ epochSec _ h header (epoch j below turn found) time

-- Neighbouring blocks are 16 us apart for each packet of a batch.
omit [Field 𝕜] in
theorem batch_timestamp_advance (epochSec batch steps : Nat) (floor : 5 ≤ epochSec)
    (clear : ¬ straddlesLeap epochSec (batchSecond cfg batch) (batchSecond cfg (batch + steps))) :
    packetTimestampNs epochSec ((batch + steps) * cfg.batchsize) =
      packetTimestampNs epochSec (batch * cfg.batchsize) + steps * (16000 * cfg.batchsize) := by
  have whole : (batch + steps) * cfg.batchsize = batch * cfg.batchsize + steps * cfg.batchsize := Nat.add_mul _ _ _
  rw [packet_timestamp_advance epochSec (batch * cfg.batchsize) _ floor (by omega) clear, whole, Nat.add_sub_cancel_left,
    frameNs, Nat.mul_assoc, Nat.mul_comm cfg.batchsize]

omit [Field 𝕜] in
theorem span_times (turns : List (WorkerTurn cfg)) (stamped : Stamped cfg turns) (result : IntegrationResult cfg)
    (first batch epochSec : Nat) (spans : Spans cfg turns result first batch)
    (epoch : SharesEpoch cfg turns first cfg.accLen epochSec)
    (clear : ¬ straddlesLeap epochSec (batchSecond cfg batch) (batchSecond cfg (batch + (cfg.accLen - 1)))) :
    (900000000 ≤ epochSec ∧ epochSec ≤ 1940630400) ∧
    (batch + (cfg.accLen - 1)) * cfg.batchsize < 2 ^ 30 * VDIF.framesPerSecond ∧
    result.firstTimestampNs = packetTimestampNs epochSec (batch * cfg.batchsize) ∧
    result.lastTimestampNs = result.firstTimestampNs + (cfg.accLen - 1) * (16000 * cfg.batchsize) := by
  have positive := cfg.accLenPos
  obtain ⟨early, foundEarly, idEarly⟩ := spans.turn 0 positive
  obtain ⟨late, foundLate, idLate⟩ := spans.turn (cfg.accLen - 1) (by omega)
  have range := epoch_sec_range (headerOf cfg early.pair.batchA)
  rw [(epoch 0 positive early foundEarly).1] at range
  have fits := (epoch (cfg.accLen - 1) (by omega) late foundLate).2
  rw [idLate] at fits
  have timeEarly := stamped_time cfg turns stamped first cfg.accLen epochSec 0 epoch positive early foundEarly
  have timeLate := stamped_time cfg turns stamped first cfg.accLen epochSec _ epoch (by omega) late foundLate
  rw [idEarly, Nat.add_zero] at timeEarly
  rw [idLate, batch_timestamp_advance cfg epochSec batch _ (by omega) clear] at timeLate
  have firstNs := (spans.firstNs early foundEarly).trans timeEarly
  refine ⟨range, fits, firstNs, ?_⟩
  rw [firstNs]
  exact (spans.lastNs late foundLate).trans timeLate

omit [Field 𝕜] in
theorem span_header (turns : List (WorkerTurn cfg)) (stamped : Stamped cfg turns) (result : IntegrationResult cfg)
    (first batch epochSec : Nat) (spans : Spans cfg turns result first batch)
    (epoch : SharesEpoch cfg turns first cfg.accLen epochSec)
    (clear : ¬ straddlesLeap epochSec (batchSecond cfg batch) (batchSecond cfg (batch + (cfg.accLen - 1)))) :
    24000 * cfg.batchsize ≤ packetTimestampNs epochSec (batch * cfg.batchsize) ∧
    ∃ header, sendHeader cfg result = .ok header ∧
      header.integrationStartNs = packetTimestampNs epochSec (batch * cfg.batchsize) - 24000 * cfg.batchsize ∧
      header.timestampNs = header.integrationStartNs + 8000 * cfg.batchsize * cfg.accLen := by
  obtain ⟨range, fits, firstNs, lastNs⟩ := span_times cfg turns stamped result first batch epochSec spans epoch clear
  have floor := packet_timestamp_floor epochSec (batch * cfg.batchsize) range.1
  have ceiling := packet_timestamp_ceiling epochSec _ range.2 fits
  rw [batch_timestamp_advance cfg epochSec batch _ (by omega) clear, ← firstNs, ← lastNs] at ceiling
  rw [← firstNs] at floor ⊢
  have width := cfg.totalNfftInt
  simp only [nsPerSec] at floor ceiling
  have enough : 24000 * cfg.batchsize ≤ result.firstTimestampNs := by omega
  refine ⟨enough, _, send_header_batch cfg result, ?_, ?_⟩
  · exact if_neg (Nat.not_lt.mpr enough)
  · have half : 16000 * cfg.batchsize * cfg.accLen / 2 = 8000 * cfg.batchsize * cfg.accLen := by
      have double : 16000 * cfg.batchsize * cfg.accLen = 2 * (8000 * cfg.batchsize * cfg.accLen) := by ring
      omega
    simp only [compensateDelayNs]
    rw [center_of_span _ _ _ cfg.accLen cfg.accLenPos lastNs (by omega), half, if_neg (by omega), if_neg (by omega)]
    omega

theorem straddles_wider (epochSec first last lower upper : Nat) (below : first ≤ lower) (above : upper ≤ last)
    (clear : ¬ straddlesLeap epochSec first last) : ¬ straddlesLeap epochSec lower upper := by
  rintro ⟨v, member, after, before⟩
  exact clear ⟨v, member, below.trans_lt after, before.trans above⟩

omit [Field 𝕜] in
theorem batch_second_mono (a b : Nat) (order : a ≤ b) : batchSecond cfg a ≤ batchSecond cfg b :=
  Nat.div_le_div_right (Nat.mul_le_mul_right _ order)

-- Two integrations that follow each other without an invalid block between
-- them are adjacent.
omit [Field 𝕜] in
theorem adjacent_entries (blocks : Nat → ProcessedBlock cfg) (count first later : Nat) (plain : cfg.calMode = false)
    (past rest : List (NoiseState × List Nat)) (entry next : NoiseState × List Nat)
    (listed : (ledgerOf cfg blocks count).published = past ++ entry :: next :: rest)
    (members : entry.2 = List.range' first cfg.accLen) (others : next.2 = List.range' later cfg.accLen)
    (valid : ∀ i, first ≤ i → i < later → (blocks i).outputValid = true) : later = first + cfg.accLen := by
  have positive := cfg.accLenPos
  have nonzero : cfg.accLen ≠ 0 := by omega
  have off : ∀ e ∈ (ledgerOf cfg blocks count).published, e.1 = .off := by
    intro e member
    obtain ⟨start, _, _, complete⟩ := (ledger_balanced cfg blocks count).complete e member
    have joins := ((kind_eligible cfg blocks start e.1).mp complete.joins.1).2.2
    simpa [plain] using joins
  have all : Ledger.entriesOf (ledgerOf cfg blocks count) .off = past ++ entry :: next :: rest := by
    rw [Ledger.entriesOf, List.filter_eq_self.mpr fun e member => decide_eq_true (off e member), listed]
  have linked := (Ledger.run_in_order cfg.accLen (kindAt cfg blocks) cfg.accLenPos count).linked .off
  have succeeds := List.isChain_iff_forall_rel_of_append_cons_cons.mp linked all
  have final : entry.2.getLast? = some (first + cfg.accLen - 1) := by
    rw [members, List.getLast?_range', if_neg nonzero]
  have head : next.2.head? = some later := by
    rw [others, List.head?_range', if_neg nonzero]
  obtain ⟨after, lost⟩ := succeeds _ _ final head
  by_contra apart
  have joins : kindAt cfg blocks (first + cfg.accLen) = .add .off := by
    refine (kind_eligible cfg blocks _ _).mpr ⟨valid _ (by omega) (by omega), ?_, by simp [plain]⟩
    simp [ProcessedBlock.blanked, plain]
  obtain ⟨e, above, below, resets⟩ := lost (first + cfg.accLen) (by omega) (by omega) joins
  have invalid := (block_kind_reset cfg (blocks e)).mp resets
  rw [valid e (by omega) below] at invalid
  cases invalid

omit [Field 𝕜] in
theorem thread_stamped (queueA queueB : List (PacketBatch cfg.batchsize)) (a b : Nat) (idsA : Consecutive cfg queueA a)
    (idsB : Consecutive cfg queueB b) (receivedA : ReceivedBy cfg.batchsize queueA) :
    Stamped cfg (subbandThread cfg (GpuPfbFft.initial cfg) queueA queueB).1 := by
  intro i turn found
  refine ⟨turn_timestamp cfg _ _ (thread_chain cfg (GpuPfbFft.initial cfg) queueA queueB) i turn found, ?_⟩
  have member : turn.pair.batchA ∈ queueA := by
    have pairs := (thread_pairs cfg (GpuPfbFft.initial cfg) queueA queueB a b idsA idsB).1
    have listed : turn.pair.batchA ∈ (subbandThread cfg (GpuPfbFft.initial cfg) queueA queueB).1.map fun turn =>
        turn.pair.batchA := List.mem_map_of_mem (List.mem_of_getElem? found)
    rw [pairs] at listed
    exact List.mem_of_mem_drop (List.mem_of_mem_take listed)
  exact received_header cfg.batchsize queueA receivedA turn.pair.batchA member (firstSlotOf cfg) rfl

omit [Field 𝕜] in
theorem adjacent_starts (turns : List (WorkerTurn cfg)) (stamped : Stamped cfg turns)
    (result later : IntegrationResult cfg) (first batch epochSec : Nat) (spans : Spans cfg turns result first batch)
    (follows : Spans cfg turns later (first + cfg.accLen) (batch + cfg.accLen))
    (epoch : SharesEpoch cfg turns first (2 * cfg.accLen) epochSec)
    (clear : ¬ straddlesLeap epochSec (batchSecond cfg batch) (batchSecond cfg (batch + (2 * cfg.accLen - 1)))) :
    ∃ header following, sendHeader cfg result = .ok header ∧ sendHeader cfg later = .ok following ∧
      following.integrationStartNs = header.integrationStartNs + 16000 * cfg.batchsize * cfg.accLen := by
  have positive := cfg.accLenPos
  have epochFirst : SharesEpoch cfg turns first cfg.accLen epochSec :=
    fun j below turn found => epoch j (by omega) turn found
  have epochNext : SharesEpoch cfg turns (first + cfg.accLen) cfg.accLen epochSec := by
    intro j below turn found
    exact epoch (cfg.accLen + j) (by omega) turn (by rw [← Nat.add_assoc]; exact found)
  have last := Nat.add_assoc batch cfg.accLen (cfg.accLen - 1)
  have clearFirst := straddles_wider _ _ _ (batchSecond cfg batch) (batchSecond cfg (batch + (cfg.accLen - 1)))
    (Nat.le_refl _) (batch_second_mono cfg _ _ (by omega)) clear
  have clearNext := straddles_wider _ _ _ (batchSecond cfg (batch + cfg.accLen))
    (batchSecond cfg (batch + cfg.accLen + (cfg.accLen - 1))) (batch_second_mono cfg _ _ (by omega))
    (batch_second_mono cfg _ _ (by omega)) clear
  have clearStep := straddles_wider _ _ _ (batchSecond cfg batch) (batchSecond cfg (batch + cfg.accLen))
    (Nat.le_refl _) (batch_second_mono cfg _ _ (by omega)) clear
  have range := (span_times cfg turns stamped result first batch epochSec spans epochFirst clearFirst).1
  obtain ⟨enough, header, sent, start, _⟩ :=
    span_header cfg turns stamped result first batch epochSec spans epochFirst clearFirst
  obtain ⟨_, following, sentNext, startNext, _⟩ :=
    span_header cfg turns stamped later _ _ epochSec follows epochNext clearNext
  refine ⟨header, following, sent, sentNext, ?_⟩
  rw [startNext, start, batch_timestamp_advance cfg epochSec batch cfg.accLen (by omega) clearStep,
    Nat.mul_comm cfg.accLen]
  omega

theorem result_timestamps (plain : cfg.calMode = false) (queueA queueB : List (PacketBatch cfg.batchsize))
    (receivedA : ReceivedBy cfg.batchsize queueA) (receivedB : ReceivedBy cfg.batchsize queueB) :
    let turns := (subbandThread cfg (GpuPfbFft.initial cfg) queueA queueB).1
    let results := (executeAll cfg (programOf cfg turns) (ResultSide.initial cfg)).published
    (∀ result ∈ results, ∃ first batch, Spans cfg turns result first batch ∧
      ∀ epochSec, SharesEpoch cfg turns first cfg.accLen epochSec →
        ¬ straddlesLeap epochSec (batchSecond cfg batch) (batchSecond cfg (batch + (cfg.accLen - 1))) →
        24000 * cfg.batchsize ≤ packetTimestampNs epochSec (batch * cfg.batchsize) ∧
        ∃ header, sendHeader cfg result = .ok header ∧
          header.integrationStartNs = packetTimestampNs epochSec (batch * cfg.batchsize) - 24000 * cfg.batchsize ∧
          header.timestampNs = header.integrationStartNs + 8000 * cfg.batchsize * cfg.accLen) ∧
    ∀ past result later rest, results = past ++ result :: later :: rest → ∃ first next start,
      Spans cfg turns result first (start + first) ∧ Spans cfg turns later next (start + next) ∧
      ((∀ i turn, first ≤ i → i < next → turns[i]? = some turn → turn.ready.currentPfbOutputValid = true) →
        next = first + cfg.accLen ∧
        ∀ epochSec, SharesEpoch cfg turns first (2 * cfg.accLen) epochSec →
          ¬ straddlesLeap epochSec (batchSecond cfg (start + first)) (batchSecond cfg (start + first + (2 * cfg.accLen - 1))) →
          ∃ header following, sendHeader cfg result = .ok header ∧ sendHeader cfg later = .ok following ∧
            following.integrationStartNs = header.integrationStartNs + 16000 * cfg.batchsize * cfg.accLen) := by
  intro turns results
  obtain ⟨a, idsA⟩ := received_ids cfg.batchsize queueA receivedA
  obtain ⟨b, idsB⟩ := received_ids cfg.batchsize queueB receivedB
  have chain := thread_chain cfg (GpuPfbFft.initial cfg) queueA queueB
  have ids := (thread_ids cfg (GpuPfbFft.initial cfg) queueA queueB a b idsA idsB).1
  have stamped := thread_stamped cfg queueA queueB a b idsA idsB receivedA
  have accounts := run_accounts cfg turns chain turns.length (Nat.le_refl _)
  rw [List.take_length] at accounts
  have matched : List.Forall₂ (Composes cfg (turnBlock cfg turns)) results
      (ledgerOf cfg (turnBlock cfg turns) turns.length).published := accounts.published
  have spansOf : ∀ result entry, Composes cfg (turnBlock cfg turns) result entry →
      entry ∈ (ledgerOf cfg (turnBlock cfg turns) turns.length).published →
      ∃ first, entry.2 = List.range' first cfg.accLen ∧ Spans cfg turns result first (max a b + first) := by
    intro result entry composes member
    exact entry_spans cfg turns (max a b) ids plain result entry composes (published_integrated cfg _ _ entry member)
  constructor
  · intro result member
    obtain ⟨past, rest, split⟩ := List.append_of_mem member
    rw [split] at matched
    obtain ⟨before, entry, after, listed, composes, _⟩ := Keyed.matched_split past result rest _ matched
    obtain ⟨first, _, spans⟩ := spansOf result entry composes (by rw [listed]; simp)
    exact ⟨first, _, spans, fun epochSec epoch clear =>
      span_header cfg turns stamped result first _ epochSec spans epoch clear⟩
  · intro past result later rest split
    rw [split] at matched
    obtain ⟨before, entry, after, listed, composes, others⟩ := Keyed.matched_split past result (later :: rest) _ matched
    cases others with
    | @cons _ next _ remaining composesNext _ =>
        obtain ⟨first, members, spans⟩ := spansOf result entry composes (by rw [listed]; simp)
        obtain ⟨second, membersNext, spansNext⟩ := spansOf later next composesNext (by rw [listed]; simp)
        refine ⟨first, second, max a b, spans, spansNext, ?_⟩
        intro free
        have adjacent := adjacent_entries cfg (turnBlock cfg turns) turns.length first second plain before remaining entry next
          listed members membersNext fun i above below => by
            obtain ⟨turn, found, _⟩ := spansNext.turn 0 cfg.accLenPos
            have inside : i < turns.length := below.trans (List.getElem?_eq_some_iff.mp found).1
            simp only [turnBlock, List.getElem?_eq_getElem inside]
            exact free i _ above below (List.getElem?_eq_getElem inside)
        subst adjacent
        refine ⟨rfl, fun epochSec epoch clear => ?_⟩
        rw [← Nat.add_assoc] at spansNext
        exact adjacent_starts cfg turns stamped result later first _ epochSec spans spansNext epoch clear

end

def spectralStream : StreamConfig :=
  { sampleStream with batchsize := 1, batchsizePos := Nat.one_pos, basebandMode := false }

theorem spectral_queue : ∃ queue : List (PacketBatch sampleGpu.batchsize), ReceivedBy sampleGpu.batchsize queue ∧
    Consecutive sampleGpu queue 0 ∧ queue.length = 5 ∧ ∀ batch ∈ queue, batch.valid = true := by
  obtain ⟨st, run, _, ids, valid⟩ := numbered_queue spectralStream rfl rfl sampleFrame 5
    (fun id _ => addressed_assemble spectralStream _ _)
    (fun id below => sample_frame_id id (by simp [VDIF.framesPerSecond]; omega))
  have size := congrArg List.length ids
  rw [List.length_map, List.length_range'] at size
  refine ⟨st.queued, ReceivedBy.run spectralStream _ st rfl run, ?_, size, valid⟩
  change st.queued.map PacketBatch.batchId = List.range' 0 st.queued.length
  rw [size]
  exact ids

theorem sound_thread {𝕜 : Type} [Field 𝕜] (cfg : GpuConfig 𝕜) (queue : List (PacketBatch cfg.batchsize))
    (ids : Consecutive cfg queue 0) (valid : ∀ batch ∈ queue, batch.valid = true) :
    (subbandThread cfg (GpuPfbFft.initial cfg) queue queue).1.map (fun turn => turn.pair.batchA) = queue ∧
    ∀ i turn, (subbandThread cfg (GpuPfbFft.initial cfg) queue queue).1[i]? = some turn →
      (turn.ready.currentPfbOutputValid = true ↔ 3 ≤ i) := by
  obtain ⟨pairsA, pairsB, _⟩ := thread_pairs cfg (GpuPfbFft.initial cfg) queue queue 0 0 ids ids
  have gaps := thread_gap_free cfg (GpuPfbFft.initial cfg) queue queue 0 ids ids
  have count : pairCount cfg queue queue 0 0 = queue.length := by simp [pairCount]
  simp only [Nat.max_self, Nat.sub_self, List.drop_zero, count, List.take_length] at pairsA pairsB
  have sound : ∀ turn ∈ (subbandThread cfg (GpuPfbFft.initial cfg) queue queue).1, Sound cfg turn.pair := by
    intro turn member
    refine ⟨gaps turn member, valid _ ?_, valid _ ?_⟩
    · rw [← pairsA]
      exact List.mem_map_of_mem member
    · rw [← pairsB]
      exact List.mem_map_of_mem member
  refine ⟨pairsA, ?_⟩
  intro i turn found
  obtain ⟨inside, rfl⟩ := List.getElem?_eq_some_iff.mp found
  have split := List.take_append_drop i (subbandThread cfg (GpuPfbFft.initial cfg) queue queue).1
  rw [← List.getElem_cons_drop inside] at split
  rw [thread_output cfg queue queue _ _ _ split.symm, List.length_take, Nat.min_eq_left (Nat.le_of_lt inside)]
  constructor
  · rintro ⟨enough, _⟩
    simp only [numTaps] at enough
    omega
  · intro enough
    refine ⟨by simp only [numTaps]; omega, ?_⟩
    intro other member
    apply sound
    rcases List.mem_append.mp (List.mem_of_mem_drop member) with past | now
    · exact List.mem_of_mem_take past
    · rw [List.mem_singleton.mp now]
      exact List.getElem_mem inside

theorem sample_published (turns : List (WorkerTurn sampleGpu)) (chain : Chain sampleGpu (GpuPfbFft.initial sampleGpu) turns)
    (count : turns.length = 5)
    (valid : ∀ i turn, turns[i]? = some turn → (turn.ready.currentPfbOutputValid = true ↔ 3 ≤ i)) :
    ∃ result, (executeAll sampleGpu (programOf sampleGpu turns) (ResultSide.initial sampleGpu)).published = [result] := by
  have accounts := run_accounts sampleGpu turns chain turns.length (Nat.le_refl _)
  rw [List.take_length] at accounts
  have plain : sampleGpu.calMode = false := rfl
  have length : sampleGpu.accLen = 2 := rfl
  have kinds : ∀ i < 5, kindAt sampleGpu (turnBlock sampleGpu turns) i = if 3 ≤ i then .add .off else .reset := by
    intro i below
    have inside : i < turns.length := by omega
    have flag := valid i _ (List.getElem?_eq_getElem inside)
    rw [kindAt, block_kind_cases]
    simp only [turnBlock, List.getElem?_eq_getElem inside]
    by_cases late : 3 ≤ i
    · simp [flag.mpr late, late, plain]
    · have off : turns[i].ready.currentPfbOutputValid = false := by simpa [late] using flag
      simp [off, late]
  have entries : (ledgerOf sampleGpu (turnBlock sampleGpu turns) 5).published = [(.off, [3, 4])] := by
    simp [ledgerOf, Ledger.run, Ledger.step, kinds, Ledger.State.start, length]
  have published := accounts.published
  rw [count, entries] at published
  cases results : (executeAll sampleGpu (programOf sampleGpu turns) (ResultSide.initial sampleGpu)).published with
  | nil =>
      rw [results] at published
      cases published
  | cons result rest =>
      rw [results] at published
      cases published with
      | cons _ later =>
          cases later
          exact ⟨result, rfl⟩

theorem result_timestamps_sample : ∃ queue : List (PacketBatch sampleGpu.batchsize),
    let turns := (subbandThread sampleGpu (GpuPfbFft.initial sampleGpu) queue queue).1
    ∃ result, (executeAll sampleGpu (programOf sampleGpu turns) (ResultSide.initial sampleGpu)).published = [result] ∧
      ∃ first batch, Spans sampleGpu turns result first batch := by
  obtain ⟨queue, received, ids, size, valid⟩ := spectral_queue
  obtain ⟨batches, flags⟩ := sound_thread sampleGpu queue ids valid
  have count := congrArg List.length batches
  rw [List.length_map, size] at count
  obtain ⟨result, published⟩ := sample_published _ (thread_chain sampleGpu (GpuPfbFft.initial sampleGpu) queue queue) count flags
  obtain ⟨first, batch, spans, _⟩ :=
    (result_timestamps sampleGpu rfl queue queue received received).1 result (by rw [published]; simp)
  exact ⟨queue, result, published, first, batch, spans⟩

end SpectralLine
