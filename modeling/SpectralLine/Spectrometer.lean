import SpectralLine.SendData

set_option autoImplicit false

namespace SpectralLine

open Streams Recent

-- A receive thread that feeds a GPU worker: what it enqueued and the packets
-- it stored.
inductive Receives : (size : Nat) → Bool → List (PacketBatch size) → List Frame → Prop
  | run (stream : StreamConfig) (events : List (RecvEvent stream)) (st : RecvState stream)
      (gpu : stream.basebandMode = false) (done : recv2mem stream events = .ok st) :
      Receives stream.batchsize stream.calMode st.queued st.stored

theorem receives_received (size : Nat) (cal : Bool) (queue : List (PacketBatch size)) (stored : List Frame)
    (receives : Receives size cal queue stored) : ReceivedBy size queue := by
  cases receives with
  | run stream events st gpu done => exact ReceivedBy.run stream events st gpu done

theorem receives_ascend (size : Nat) (cal : Bool) (queue : List (PacketBatch size)) (stored : List Frame)
    (receives : Receives size cal queue stored) : idsAscend stored := by
  cases receives with
  | run stream events st gpu done =>
      obtain ⟨_, phase⟩ := recv_run_inv stream events st done
      rcases phase with idle | ⟨origin, running⟩
      · rw [idle.stored]
        exact List.Pairwise.nil
      · exact running.batches.ordered

-- A complete batch holds one stored packet for each of its ids.
theorem receives_valid (size : Nat) (cal : Bool) (queue : List (PacketBatch size)) (stored : List Frame)
    (receives : Receives size cal queue stored) (batch : PacketBatch size) (member : batch ∈ queue)
    (valid : batch.valid = true) (i : Fin size) :
    ∃ f ∈ stored, f.packetId = batch.batchId * size + i.val ∧ batch.buffer i = f.packet ∧
      batch.noiseState i = (VDIF.readMetadata f.vdif cal).noiseSourceState := by
  cases receives with
  | run stream events st gpu done =>
      obtain ⟨_, phase⟩ := recv_run_inv stream events st done
      rcases phase with idle | ⟨origin, running⟩
      · rw [idle.queued] at member
        cases member
      · have finished := running.batches.finished batch member
        obtain ⟨f, present, same⟩ := finished.valid.mp valid i.val i.isLt
        obtain ⟨buffer, noise, _⟩ := finished.kept f present i same
        exact ⟨f, present, same, buffer, noise⟩

theorem receives_whole (size : Nat) (cal : Bool) (queue : List (PacketBatch size)) (stored : List Frame)
    (receives : Receives size cal queue stored) (batch : PacketBatch size) (member : batch ∈ queue)
    (whole : ∀ i < size, ∃ f ∈ stored, f.packetId = batch.batchId * size + i) : batch.valid = true := by
  cases receives with
  | run stream events st gpu done =>
      obtain ⟨_, phase⟩ := recv_run_inv stream events st done
      rcases phase with idle | ⟨origin, running⟩
      · rw [idle.queued] at member
        cases member
      · exact (running.batches.finished batch member).valid.mpr whole

-- The payload a stream delivered under an id.
def payloadAt (stored : List Frame) (id : Nat) : Packet :=
  match stored.find? fun f => f.packetId == id with
  | some f => f.packet
  | none => .memset 0

theorem payload_at_stored (stored : List Frame) (ordered : idsAscend stored) (f : Frame) (member : f ∈ stored) :
    payloadAt stored f.packetId = f.packet := by
  induction stored with
  | nil => cases member
  | cons g rest ih =>
      obtain ⟨below, later⟩ := List.pairwise_cons.mp ordered
      rcases List.mem_cons.mp member with rfl | inside
      · simp [payloadAt]
      · have other : (g.packetId == f.packetId) = false := beq_eq_false_iff_ne.mpr (Nat.ne_of_lt (below f inside))
        rw [payloadAt, List.find?_cons, other]
        exact ih later inside

section

variable {𝕜 : Type} (cfg : GpuConfig 𝕜)

-- The block a GPU worker should work on: the payloads of the batch, by id.
def blockBytes (payload : Nat → Packet) (batch : Nat) : Raw cfg := fun k =>
  (payload (batch * cfg.batchsize + k.val / VDIF.payloadLen)).payload.getD (k.val % VDIF.payloadLen) 0

theorem batch_bytes_stored (queue : List (PacketBatch cfg.batchsize)) (stored : List Frame)
    (receives : Receives cfg.batchsize cfg.calMode queue stored) (batch : PacketBatch cfg.batchsize) (member : batch ∈ queue)
    (valid : batch.valid = true) : batchBytes cfg batch = blockBytes cfg (payloadAt stored) batch.batchId := by
  have ordered := receives_ascend _ _ queue stored receives
  funext k
  obtain ⟨f, present, id, buffer, _⟩ := receives_valid _ _ queue stored receives batch member valid
    ⟨k.val / VDIF.payloadLen, byte_packet cfg k⟩
  have payload := payload_at_stored stored ordered f present
  rw [id] at payload
  rw [batchBytes, blockBytes, buffer, payload]

def Arrived (stored : List Frame) (id : Nat) : Prop := ∃ f ∈ stored, f.packetId = id

variable [Field 𝕜]

-- The spectrum of a batch: the filter bank over it and the three before it.
def spectrumOf (payload : Nat → Packet) (batch : Nat) : Samples cfg :=
  fftshift1d cfg (cfg.fft (pfbOfBlocks cfg fun t => blockBytes cfg payload (batch + 1 - numTaps + t.val)))

theorem follows_ffted (st : GpuPfbFft cfg) (turn : WorkerTurn cfg) (m : DeviceMemory cfg) (follows : Follows cfg st turn)
    (p : Pol) : execAll (gpuDevice cfg) turn.instrs m (.ffted p) =
      fftshift1d cfg (cfg.fft (execAll (gpuDevice cfg) turn.instrs m (.pfbed p))) := by
  obtain ⟨state, taken, ready, after, instrs⟩ := follows
  have stays := stokes_acc_front cfg turn.ready
    (execAll (gpuDevice cfg) (copyInstrs cfg turn.pair ++ (submitPfbFft cfg state).2) m)
  rw [instrs, exec_all_append, stays (.ffted p) trivial, stays (.pfbed p) trivial]
  exact (front_effect cfg turn.pair state m).ffted p

def firstBatch (queue : List (PacketBatch cfg.batchsize)) : Nat :=
  match queue with
  | [] => 0
  | batch :: _ => batch.batchId

omit [Field 𝕜] in
theorem received_consecutive (queue : List (PacketBatch cfg.batchsize)) (received : ReceivedBy cfg.batchsize queue) :
    Consecutive cfg queue (firstBatch cfg queue) := by
  obtain ⟨start, ids⟩ := received_ids _ _ received
  cases queue with
  | nil => rfl
  | cons batch rest =>
      have first := (consecutive_cons cfg batch rest start ids).1
      rw [firstBatch, first]
      exact ids

-- Two receive threads and the worker their queues feed.
structure Observation where
  queueA : List (PacketBatch cfg.batchsize)
  queueB : List (PacketBatch cfg.batchsize)
  storedA : List Frame
  storedB : List Frame
  receivesA : Receives cfg.batchsize cfg.calMode queueA storedA
  receivesB : Receives cfg.batchsize cfg.calMode queueB storedB

namespace Observation

variable {cfg} (obs : Observation cfg)

def turns : List (WorkerTurn cfg) := (subbandThread cfg (GpuPfbFft.initial cfg) obs.queueA obs.queueB).1

def results : List (IntegrationResult cfg) := (executeAll cfg (programOf cfg obs.turns) (ResultSide.initial cfg)).published

def spectrumA (batch : Nat) : Samples cfg := spectrumOf cfg (payloadAt obs.storedA) batch

def spectrumB (batch : Nat) : Samples cfg := spectrumOf cfg (payloadAt obs.storedB) batch

omit [Field 𝕜] in
theorem turns_chain : Chain cfg (GpuPfbFft.initial cfg) obs.turns := thread_chain cfg (GpuPfbFft.initial cfg) obs.queueA obs.queueB

-- The batch of the first pair.
def base : Nat := max (firstBatch cfg obs.queueA) (firstBatch cfg obs.queueB)

omit [Field 𝕜] in
theorem turn_batches (i : Nat) (turn : WorkerTurn cfg) (found : obs.turns[i]? = some turn) :
    turn.pair.batchA ∈ obs.queueA ∧ turn.pair.batchB ∈ obs.queueB ∧
    turn.pair.batchA.batchId = obs.base + i ∧ turn.pair.batchB.batchId = obs.base + i := by
  have idsA := received_consecutive cfg obs.queueA (receives_received _ _ _ _ obs.receivesA)
  have idsB := received_consecutive cfg obs.queueB (receives_received _ _ _ _ obs.receivesB)
  obtain ⟨pairsA, pairsB, _⟩ := thread_pairs cfg (GpuPfbFft.initial cfg) obs.queueA obs.queueB _ _ idsA idsB
  obtain ⟨numbersA, numbersB⟩ := thread_ids cfg (GpuPfbFft.initial cfg) obs.queueA obs.queueB _ _ idsA idsB
  have listedA := List.mem_map_of_mem (f := fun turn : WorkerTurn cfg => turn.pair.batchA) (List.mem_of_getElem? found)
  have listedB := List.mem_map_of_mem (f := fun turn : WorkerTurn cfg => turn.pair.batchB) (List.mem_of_getElem? found)
  rw [turns, pairsA] at listedA
  rw [turns, pairsB] at listedB
  refine ⟨List.mem_of_mem_drop (List.mem_of_mem_take listedA), List.mem_of_mem_drop (List.mem_of_mem_take listedB), ?_, ?_⟩
  · refine consecutive_at cfg _ _ i _ numbersA ?_
    rw [List.getElem?_map]
    exact congrArg (Option.map _) found
  · refine consecutive_at cfg _ _ i _ numbersB ?_
    rw [List.getElem?_map]
    exact congrArg (Option.map _) found

-- Both streams delivered every packet of a pair that was not zeroed.
omit [Field 𝕜] in
theorem valid_pair_arrived (i : Nat) (turn : WorkerTurn cfg) (found : obs.turns[i]? = some turn)
    (valid : turn.pair.inputValid = true) (k : Nat) (inside : k < cfg.batchsize) :
    Arrived obs.storedA ((obs.base + i) * cfg.batchsize + k) ∧ Arrived obs.storedB ((obs.base + i) * cfg.batchsize + k) := by
  obtain ⟨_, validA, validB⟩ := (input_valid_sound cfg turn.pair).mp valid
  obtain ⟨memberA, memberB, idA, idB⟩ := obs.turn_batches i turn found
  obtain ⟨f, storedA, same, _⟩ := receives_valid _ _ _ _ obs.receivesA _ memberA validA ⟨k, inside⟩
  obtain ⟨g, storedB, other, _⟩ := receives_valid _ _ _ _ obs.receivesB _ memberB validB ⟨k, inside⟩
  rw [idA] at same
  rw [idB] at other
  exact ⟨⟨f, storedA, same⟩, ⟨g, storedB, other⟩⟩

theorem valid_block (i : Nat) (turn : WorkerTurn cfg) (found : obs.turns[i]? = some turn)
    (flagged : turn.ready.currentPfbOutputValid = true) :
    numTaps ≤ i + 1 ∧ (turnBlock cfg obs.turns i).A = obs.spectrumA (obs.base + i) ∧
    (turnBlock cfg obs.turns i).B = obs.spectrumB (obs.base + i) ∧
    ∀ t < numTaps, ∃ other, obs.turns[i + 1 - numTaps + t]? = some other ∧ other.pair.inputValid = true := by
  obtain ⟨inside, rfl⟩ := List.getElem?_eq_some_iff.mp found
  have split : obs.turns = obs.turns.take i ++ obs.turns[i] :: obs.turns.drop (i + 1) := by
    rw [List.getElem_cons_drop, List.take_append_drop]
  have size : (obs.turns.take i).length = i := by rw [List.length_take]; omega
  have longer : obs.turns.take (i + 1) = obs.turns.take i ++ [obs.turns[i]] := (List.take_concat_get' obs.turns i inside).symm
  obtain ⟨state, follows⟩ := chain_pfb_state cfg obs.turns _ _ _ obs.turns_chain split
  have long := (follows_output cfg _ _ _ state.remaining follows).2.mp flagged
  have enough := ((streak_recent _ _ _).mp long).1
  rw [List.length_append, List.length_singleton, size] at enough
  obtain ⟨window, windows, sumA, sumB⟩ := valid_output_window cfg _ _ _ _ state follows flagged
  rw [size] at windows
  have placed : ∀ t, obs.turns[i + 1 - numTaps + t.val]? = some (window t) := by
    intro t
    have bound := (List.getElem?_eq_some_iff.mp (windows t).1).1
    rw [split, List.append_cons, List.getElem?_append_left bound]
    exact (windows t).1
  have block : turnBlock cfg obs.turns i = {
      outputValid := obs.turns[i].ready.currentPfbOutputValid
      noiseState := obs.turns[i].ready.noiseState
      noiseCycleStartNs := obs.turns[i].ready.noiseCycleStartNs
      timestampNs := obs.turns[i].ready.timestampNs
      A := execAll (gpuDevice cfg) (programOf cfg (obs.turns.take (i + 1))) (initialMemory cfg) (.ffted .A)
      B := execAll (gpuDevice cfg) (programOf cfg (obs.turns.take (i + 1))) (initialMemory cfg) (.ffted .B) } := by
    simp only [turnBlock, List.getElem?_eq_getElem inside]
  have program : ∀ m, execAll (gpuDevice cfg) (programOf cfg (obs.turns.take (i + 1))) m =
      execAll (gpuDevice cfg) obs.turns[i].instrs (execAll (gpuDevice cfg) (programOf cfg (obs.turns.take i)) m) := by
    intro m
    rw [longer, programOf, List.flatMap_append, List.flatMap_singleton, exec_all_append]
    rfl
  have shiftBatch : ∀ t : Fin numTaps, obs.base + (i + 1 - numTaps + t.val) = obs.base + i + 1 - numTaps + t.val := by
    intro t
    omega
  refine ⟨enough, ?_, ?_, ?_⟩
  · rw [block]
    simp only [program]
    rw [follows_ffted cfg _ _ _ follows .A, sumA, spectrumA, spectrumOf]
    congr 3
    funext t
    obtain ⟨memberA, _, idA, _⟩ := obs.turn_batches _ _ (placed t)
    obtain ⟨_, validA, _⟩ := (input_valid_sound cfg _).mp (windows t).2
    rw [batch_bytes_stored cfg _ _ obs.receivesA _ memberA validA, idA, shiftBatch]
  · rw [block]
    simp only [program]
    rw [follows_ffted cfg _ _ _ follows .B, sumB, spectrumB, spectrumOf]
    congr 3
    funext t
    obtain ⟨_, memberB, _, idB⟩ := obs.turn_batches _ _ (placed t)
    obtain ⟨_, _, validB⟩ := (input_valid_sound cfg _).mp (windows t).2
    rw [batch_bytes_stored cfg _ _ obs.receivesB _ memberB validB, idB, shiftBatch]
  · intro t below
    exact ⟨window ⟨t, below⟩, placed ⟨t, below⟩, (windows ⟨t, below⟩).2⟩

theorem block_turn (i : Nat) (valid : (turnBlock cfg obs.turns i).outputValid = true) :
    ∃ turn, obs.turns[i]? = some turn ∧ turn.ready.currentPfbOutputValid = true ∧
      (turnBlock cfg obs.turns i).noiseState = turn.ready.noiseState := by
  cases found : obs.turns[i]? with
  | none => simp [turnBlock, found] at valid
  | some turn =>
      simp only [turnBlock, found] at valid ⊢
      exact ⟨turn, rfl, valid, rfl⟩

-- An interval of valid blocks starts at the oldest block its filter reads.
theorem interval_pairs (i j m : Nat) (valid : ∀ k, i ≤ k → k ≤ j → (turnBlock cfg obs.turns k).outputValid = true)
    (order : i ≤ j) (low : i + 1 - numTaps ≤ m) (high : m ≤ j) :
    numTaps ≤ i + 1 ∧ ∃ turn, obs.turns[m]? = some turn ∧ turn.pair.inputValid = true := by
  have window : ∀ k, i ≤ k → k ≤ j → numTaps ≤ k + 1 ∧
      ∀ t < numTaps, ∃ other, obs.turns[k + 1 - numTaps + t]? = some other ∧ other.pair.inputValid = true := by
    intro k above below
    obtain ⟨turn, found, flagged, _⟩ := obs.block_turn k (valid k above below)
    obtain ⟨enough, _, _, pairs⟩ := obs.valid_block k turn found flagged
    exact ⟨enough, pairs⟩
  have taps : numTaps = 4 := rfl
  obtain ⟨enough, first⟩ := window i (Nat.le_refl i) order
  refine ⟨enough, ?_⟩
  by_cases inside : i ≤ m
  · obtain ⟨late, pairs⟩ := window m inside high
    have newest := pairs (numTaps - 1) (by decide)
    rwa [show m + 1 - numTaps + (numTaps - 1) = m by omega] at newest
  · have older := first (m - (i + 1 - numTaps)) (by omega)
    rwa [show i + 1 - numTaps + (m - (i + 1 - numTaps)) = m by omega] at older

-- A published result in terms of the packets of the two streams.
structure Measures (result : IntegrationResult cfg) (batches : List Nat) : Prop where
  count : batches.length = cfg.accLen
  ordered : batches.Pairwise (· < ·)
  together : cfg.calMode = false → ∃ first, batches = List.range' first cfg.accLen
  arrived : ∀ low ∈ batches, ∀ high ∈ batches, ∀ id, (low + 1 - numTaps) * cfg.batchsize ≤ id →
    id < (high + 1) * cfg.batchsize → numTaps ≤ low + 1 ∧ Arrived obs.storedA id ∧ Arrived obs.storedB id
  noise : cfg.calMode = true → ∀ b ∈ batches, ∃ f ∈ obs.storedA, f.packetId = b * cfg.batchsize ∧
    noiseStateOf (VDIF.readMetadata f.vdif cfg.calMode).noiseSourceState = result.noiseState
  stokes : cfg.spectral = true →
    result.data = (batches.map fun b => stokesOf cfg (obs.spectrumA b) (obs.spectrumB b)).sum
  power : cfg.spectral = false →
    result.sumPower = (batches.map fun b => continuumOf cfg (obs.spectrumA b) (obs.spectrumB b)).sum

theorem interval_arrived (i j : Nat) (order : i ≤ j)
    (valid : ∀ k, i ≤ k → k ≤ j → (turnBlock cfg obs.turns k).outputValid = true) (id : Nat)
    (low : (obs.base + i + 1 - numTaps) * cfg.batchsize ≤ id) (high : id < (obs.base + j + 1) * cfg.batchsize) :
    numTaps ≤ i + 1 ∧ Arrived obs.storedA id ∧ Arrived obs.storedB id := by
  have taps : numTaps = 4 := rfl
  have start : numTaps ≤ i + 1 := (obs.interval_pairs i j i valid order (by omega) order).1
  have from_ : obs.base + i + 1 - numTaps ≤ id / cfg.batchsize := (Nat.le_div_iff_mul_le cfg.batchsizePos).mpr low
  have until_ : id / cfg.batchsize < obs.base + j + 1 := (Nat.div_lt_iff_lt_mul cfg.batchsizePos).mpr high
  obtain ⟨_, turn, found, complete⟩ :=
    obs.interval_pairs i j (id / cfg.batchsize - obs.base) valid order (by omega) (by omega)
  have both := obs.valid_pair_arrived _ turn found complete (id % cfg.batchsize) (Nat.mod_lt _ cfg.batchsizePos)
  rw [show obs.base + (id / cfg.batchsize - obs.base) = id / cfg.batchsize by omega, Nat.div_add_mod'] at both
  exact ⟨start, both⟩

theorem block_noise (cal : cfg.calMode = true) (i : Nat) (valid : (turnBlock cfg obs.turns i).outputValid = true) :
    ∃ f ∈ obs.storedA, f.packetId = (obs.base + i) * cfg.batchsize ∧
      noiseStateOf (VDIF.readMetadata f.vdif cfg.calMode).noiseSourceState = (turnBlock cfg obs.turns i).noiseState := by
  obtain ⟨turn, found, _, shown⟩ := obs.block_turn i valid
  obtain ⟨before, state, taken, ready, _⟩ := turn_follows cfg obs.turns _ obs.turns_chain i turn found
  obtain ⟨_, other, again, complete⟩ := obs.interval_pairs i i i
    (fun k above below => by rwa [show k = i by omega]) (Nat.le_refl i) (by simp only [numTaps]; omega) (Nat.le_refl i)
  obtain rfl : turn = other := Option.some.inj (found.symm.trans again)
  obtain ⟨_, validA, _⟩ := (input_valid_sound cfg turn.pair).mp complete
  obtain ⟨memberA, _, idA, _⟩ := obs.turn_batches i turn found
  obtain ⟨f, stored, id, _, noise⟩ := receives_valid _ _ _ _ obs.receivesA _ memberA validA (firstSlotOf cfg)
  rw [idA] at id
  refine ⟨f, stored, id, ?_⟩
  have bit := ((take_pair_effect cfg before turn.pair state taken).noise cal).1
  rw [shown, ready, ← noise]
  exact bit.symm

theorem entry_measures (count : Nat) (result : IntegrationResult cfg) (entry : NoiseState × List Nat)
    (member : entry ∈ (ledgerOf cfg (turnBlock cfg obs.turns) count).published)
    (composes : Composes cfg (turnBlock cfg obs.turns) result entry) :
    obs.Measures result (entry.2.map (obs.base + ·)) := by
  obtain ⟨first, last, _, complete⟩ := (ledger_balanced cfg (turnBlock cfg obs.turns) count).complete entry member
  obtain ⟨head, last_, _, _, _, length, _, _, plain⟩ := published_integrated cfg (turnBlock cfg obs.turns) count entry member
  have inside : ∀ i ∈ entry.2, first ≤ i ∧ i ≤ last ∧ Eligible cfg (turnBlock cfg obs.turns i) entry.1 := by
    intro i listed
    rw [complete.members, Ledger.mem_picked, kind_eligible] at listed
    exact ⟨listed.1.1, Nat.le_of_lt_succ listed.1.2, listed.2⟩
  have quiet : ∀ k, first ≤ k → k ≤ last → (turnBlock cfg obs.turns k).outputValid = true := by
    intro k above below
    by_contra invalid
    exact complete.quiet k above below ((block_kind_reset cfg _).mpr (by simpa using invalid))
  have spectra : ∀ i ∈ entry.2, (turnBlock cfg obs.turns i).A = obs.spectrumA (obs.base + i) ∧
      (turnBlock cfg obs.turns i).B = obs.spectrumB (obs.base + i) := by
    intro i listed
    obtain ⟨turn, found, flagged, _⟩ := obs.block_turn i (inside i listed).2.2.1
    obtain ⟨_, A, B, _⟩ := obs.valid_block i turn found flagged
    exact ⟨A, B⟩
  constructor
  · rw [List.length_map, length]
  · rw [List.pairwise_map, complete.members]
    exact (Ledger.picked_ascend _ _ _ _).imp fun below => Nat.add_lt_add_left below _
  · intro off
    refine ⟨obs.base + head, ?_⟩
    rw [plain off, List.map_add_range']
  · intro low lowListed high highListed id above below
    obtain ⟨i, iListed, rfl⟩ := List.mem_map.mp lowListed
    obtain ⟨k, kListed, rfl⟩ := List.mem_map.mp highListed
    have taps : numTaps = 4 := rfl
    rcases Nat.le_total i k with order | order
    · obtain ⟨start, both⟩ := obs.interval_arrived i k order
        (fun m above below => quiet m ((inside i iListed).1.trans above) (below.trans (inside k kListed).2.1)) id above below
      exact ⟨by omega, both⟩
    · have smaller : (obs.base + k + 1) * cfg.batchsize ≤ (obs.base + i + 1) * cfg.batchsize :=
        Nat.mul_le_mul_right _ (by omega)
      obtain ⟨start, both⟩ := obs.interval_arrived i i (Nat.le_refl i)
        (fun m above below => quiet m ((inside i iListed).1.trans above) (below.trans (inside i iListed).2.1)) id above
        (lt_of_lt_of_le below smaller)
      exact ⟨by omega, both⟩
  · intro cal b listed
    obtain ⟨i, iListed, rfl⟩ := List.mem_map.mp listed
    obtain ⟨valid, _, state⟩ := (inside i iListed).2.2
    rw [if_pos cal] at state
    rw [composes.noise, state]
    exact obs.block_noise cal i valid
  · intro mode
    rw [composes.stokes mode, stokesSum, List.map_map]
    congr 1
    exact List.map_congr_left fun i listed => by rw [(spectra i listed).1, (spectra i listed).2]; rfl
  · intro mode
    rw [composes.power mode, powerSum, List.map_map]
    congr 1
    exact List.map_congr_left fun i listed => by rw [(spectra i listed).1, (spectra i listed).2]; rfl

def intervals : List (List Nat) :=
  (ledgerOf cfg (turnBlock cfg obs.turns) obs.turns.length).published.map fun entry => entry.2.map (obs.base + ·)

theorem results_measured : List.Forall₂ obs.Measures obs.results obs.intervals := by
  have accounts := run_accounts cfg obs.turns obs.turns_chain obs.turns.length (Nat.le_refl _)
  rw [List.take_length] at accounts
  have matched : List.Forall₂ (Composes cfg (turnBlock cfg obs.turns)) obs.results
      (ledgerOf cfg (turnBlock cfg obs.turns) obs.turns.length).published := accounts.published
  rw [intervals, List.forall₂_map_right_iff]
  have listed : List.Forall₂ (fun entry result => entry ∈ (ledgerOf cfg (turnBlock cfg obs.turns) obs.turns.length).published ∧
      Composes cfg (turnBlock cfg obs.turns) result entry)
      (ledgerOf cfg (turnBlock cfg obs.turns) obs.turns.length).published obs.results :=
    (List.forall₂_and_left _ _).mpr ⟨fun entry member => member, matched.flip⟩
  exact listed.flip.imp fun result entry both => obs.entry_measures _ result entry both.1 both.2

-- Whatever was lost, duplicated or late: every published result is the power
-- of accLen batches that arrived whole on both streams, and no batch is
-- counted twice.
theorem spectrometer : ∃ intervals : List (List Nat), List.Forall₂ obs.Measures obs.results intervals ∧
    intervals.flatten.Nodup := by
  refine ⟨obs.intervals, obs.results_measured, ?_⟩
  have once := (ledger_balanced cfg (turnBlock cfg obs.turns) obs.turns.length).once
  have shifted := once.map (f := (obs.base + ·)) fun _ _ same => Nat.add_left_cancel same
  rwa [List.map_flatMap] at shifted

-- The i-th pair is there, no batch was skipped for it, and both streams
-- delivered all of its packets.
structure Delivered (i : Nat) : Prop where
  inside : i < obs.turns.length
  aligned : i = 0 → firstBatch cfg obs.queueA = firstBatch cfg obs.queueB
  whole : ∀ k < cfg.batchsize,
    Arrived obs.storedA ((obs.base + i) * cfg.batchsize + k) ∧ Arrived obs.storedB ((obs.base + i) * cfg.batchsize + k)

omit [Field 𝕜] in
theorem delivered_valid (i : Nat) :
    obs.Delivered i ↔ ∃ turn, obs.turns[i]? = some turn ∧ turn.pair.inputValid = true := by
  have gaps := thread_gap cfg (GpuPfbFft.initial cfg) obs.queueA obs.queueB _ _
    (received_consecutive cfg _ (receives_received _ _ _ _ obs.receivesA))
    (received_consecutive cfg _ (receives_received _ _ _ _ obs.receivesB))
  constructor
  · rintro ⟨inside, aligned, whole⟩
    have found := List.getElem?_eq_getElem inside
    obtain ⟨memberA, memberB, idA, idB⟩ := obs.turn_batches i _ found
    refine ⟨obs.turns[i], found, (input_valid_sound cfg _).mpr ⟨?_, ?_, ?_⟩⟩
    · rw [gaps i _ found, decide_eq_false_iff_not]
      rintro ⟨start, apart⟩
      exact apart (aligned start)
    · refine receives_whole _ _ _ _ obs.receivesA _ memberA fun k below => ?_
      rw [idA]
      exact (whole k below).1
    · refine receives_whole _ _ _ _ obs.receivesB _ memberB fun k below => ?_
      rw [idB]
      exact (whole k below).2
  · rintro ⟨turn, found, valid⟩
    refine ⟨(List.getElem?_eq_some_iff.mp found).1, ?_, obs.valid_pair_arrived i turn found valid⟩
    intro start
    have gap := ((input_valid_sound cfg _).mp valid).1
    rw [gaps i turn found, decide_eq_false_iff_not] at gap
    by_contra apart
    exact gap ⟨start, apart⟩

theorem output_delivered (i : Nat) : (turnBlock cfg obs.turns i).outputValid = true ↔
    numTaps ≤ i + 1 ∧ ∀ t < numTaps, obs.Delivered (i + 1 - numTaps + t) := by
  constructor
  · intro valid
    obtain ⟨turn, found, flagged, _⟩ := obs.block_turn i valid
    obtain ⟨enough, _, _, pairs⟩ := obs.valid_block i turn found flagged
    exact ⟨enough, fun t below => (obs.delivered_valid _).mpr (pairs t below)⟩
  · rintro ⟨enough, pairs⟩
    have inside : i < obs.turns.length := by
      have newest := (pairs (numTaps - 1) (by decide)).1
      have taps : numTaps = 4 := rfl
      omega
    have split : obs.turns = obs.turns.take i ++ obs.turns[i] :: obs.turns.drop (i + 1) := by
      rw [List.getElem_cons_drop, List.take_append_drop]
    have longer : obs.turns.take (i + 1) = obs.turns.take i ++ [obs.turns[i]] := (List.take_concat_get' obs.turns i inside).symm
    have flagged : obs.turns[i].ready.currentPfbOutputValid = true := by
      rw [thread_output cfg obs.queueA obs.queueB _ _ _ split, ← longer, List.length_take, Nat.min_eq_left (Nat.le_of_lt inside)]
      refine ⟨enough, fun other member => (input_valid_sound cfg _).mp ?_⟩
      rw [recent, List.mem_drop_iff_getElem] at member
      obtain ⟨t, bound, rfl⟩ := member
      have size : (obs.turns.take (i + 1)).length = i + 1 := by rw [List.length_take]; omega
      obtain ⟨turn, found, valid⟩ := (obs.delivered_valid _).mp (pairs t (by omega))
      rw [List.getElem_take]
      simp only [size]
      rwa [Option.some.inj ((List.getElem?_eq_getElem _).symm.trans found)]
    simpa only [turnBlock, List.getElem?_eq_getElem inside] using flagged

-- A run of whole pairs that no whole pair precedes.
structure WholeRun (start length : Nat) : Prop where
  first : start = 0 ∨ ∃ before, start = before + 1 ∧ ¬ obs.Delivered before
  whole : ∀ i < length, obs.Delivered (start + i)

theorem piece_run (k at_ : Nat) : Ledger.Piece cfg.accLen (kindAt cfg (turnBlock cfg obs.turns)) at_ k ↔
    ∃ start, at_ = start + (numTaps - 1) ∧ obs.WholeRun start (numTaps - 1 + (k + 1) * cfg.accLen) := by
  have taps : numTaps = 4 := rfl
  have positive : 0 < (k + 1) * cfg.accLen := Nat.mul_pos k.succ_pos cfg.accLenPos
  have resets : ∀ i, kindAt cfg (turnBlock cfg obs.turns) i = .reset ↔
      ¬ (numTaps ≤ i + 1 ∧ ∀ t < numTaps, obs.Delivered (i + 1 - numTaps + t)) := by
    intro i
    rw [kindAt, block_kind_reset, ← output_delivered, Bool.not_eq_true]
  constructor
  · rintro ⟨first, quiet⟩
    have valid : ∀ i, at_ ≤ i → i < at_ + (k + 1) * cfg.accLen →
        numTaps ≤ i + 1 ∧ ∀ t < numTaps, obs.Delivered (i + 1 - numTaps + t) :=
      fun i low high => not_not.mp ((resets i).not.mp (quiet i low high))
    obtain ⟨enough, filled⟩ := valid at_ (Nat.le_refl _) (by omega)
    refine ⟨at_ - (numTaps - 1), by omega, ?_, ?_⟩
    · rcases first with zero | ⟨e, after, broken⟩
      · omega
      · by_cases early : at_ = numTaps - 1
        · exact Or.inl (by omega)
        · refine Or.inr ⟨at_ - (numTaps - 1) - 1, by omega, fun older => (resets e).mp broken ⟨by omega, fun t below => ?_⟩⟩
          cases t with
          | zero => rwa [show e + 1 - numTaps + 0 = at_ - (numTaps - 1) - 1 by omega]
          | succ t =>
              have shared := filled t (by omega)
              rwa [show at_ + 1 - numTaps + t = e + 1 - numTaps + (t + 1) by omega] at shared
    · intro i below
      by_cases head : i < numTaps
      · have shared := filled i head
        rwa [show at_ + 1 - numTaps + i = at_ - (numTaps - 1) + i by omega] at shared
      · have newest := (valid (at_ - (numTaps - 1) + i) (by omega) (by omega)).2 (numTaps - 1) (by omega)
        rwa [show at_ - (numTaps - 1) + i + 1 - numTaps + (numTaps - 1) = at_ - (numTaps - 1) + i by omega] at newest
  · rintro ⟨start, rfl, first, whole⟩
    constructor
    · refine Or.inr ⟨start + numTaps - 2, by omega, (resets _).mpr ?_⟩
      rintro ⟨enough, pairs⟩
      rcases first with zero | ⟨before, after, missing⟩
      · omega
      · have oldest := pairs 0 (by omega)
        rw [show start + numTaps - 2 + 1 - numTaps + 0 = before by omega] at oldest
        exact missing oldest
    · intro i low high
      refine (resets i).not.mpr (not_not.mpr ⟨by omega, fun t below => ?_⟩)
      have inside := whole (i + 1 - numTaps + t - start) (by omega)
      rwa [show start + (i + 1 - numTaps + t - start) = i + 1 - numTaps + t by omega] at inside

-- Without the noise diode the results are known from the deliveries alone:
-- three pairs after a loss the filter is full again, and from there every
-- accLen pairs make one result until the next loss.
theorem recovery (plain : cfg.calMode = false) :
    ∃ intervals : List (List Nat), List.Forall₂ obs.Measures obs.results intervals ∧
      ∀ interval, interval ∈ intervals ↔ ∃ start k, obs.WholeRun start (numTaps - 1 + (k + 1) * cfg.accLen) ∧
        interval = List.range' (obs.base + (start + (numTaps - 1) + k * cfg.accLen)) cfg.accLen := by
  have every : ∀ i, kindAt cfg (turnBlock cfg obs.turns) i ≠ .reset → kindAt cfg (turnBlock cfg obs.turns) i = .add .off := by
    intro i sound
    rw [kindAt, block_kind_add]
    have valid := (block_kind_reset cfg _).not.mp sound
    simp [valid, plain, ProcessedBlock.blanked]
  have pieces := Ledger.run_pieces cfg.accLen (kindAt cfg (turnBlock cfg obs.turns)) cfg.accLenPos .off every obs.turns.length
  have seen := ledger_seen cfg (turnBlock cfg obs.turns) obs.turns.length
  refine ⟨obs.intervals, obs.results_measured, ?_⟩
  intro interval
  rw [intervals, List.mem_map]
  constructor
  · rintro ⟨entry, member, rfl⟩
    obtain ⟨_, at_, k, piece, _, members⟩ := (pieces.entries entry).mp member
    obtain ⟨start, rfl, run⟩ := (obs.piece_run k at_).mp piece
    refine ⟨start, k, run, ?_⟩
    rw [members, List.map_add_range']
  · rintro ⟨start, k, run, rfl⟩
    refine ⟨(.off, List.range' (start + (numTaps - 1) + k * cfg.accLen) cfg.accLen), (pieces.entries _).mpr ⟨rfl, _, k,
      (obs.piece_run k _).mpr ⟨start, rfl, run⟩, ?_, rfl⟩, by rw [List.map_add_range']⟩
    have positive : 0 < (k + 1) * cfg.accLen := Nat.mul_pos k.succ_pos cfg.accLenPos
    have last := (run.whole (numTaps - 1 + (k + 1) * cfg.accLen - 1) (by omega)).1
    change _ ≤ (ledgerOf cfg (turnBlock cfg obs.turns) obs.turns.length).seen
    rw [seen]
    omega

end Observation

end

theorem sample_receives : ∃ (queue : List (PacketBatch sampleGpu.batchsize)) (stored : List Frame),
    Receives sampleGpu.batchsize sampleGpu.calMode queue stored ∧ Consecutive sampleGpu queue 0 ∧ queue.length = 5 ∧
    ∀ batch ∈ queue, batch.valid = true := by
  obtain ⟨st, run, _, ids, valid⟩ := numbered_queue spectralStream rfl rfl sampleFrame 5
    (fun id _ => addressed_assemble spectralStream _ _)
    (fun id below => sample_frame_id id (by simp [VDIF.framesPerSecond]; omega))
  have size := congrArg List.length ids
  rw [List.length_map, List.length_range'] at size
  refine ⟨st.queued, st.stored, Receives.run spectralStream _ st rfl run, ?_, size, valid⟩
  change st.queued.map PacketBatch.batchId = List.range' 0 st.queued.length
  rw [size]
  exact ids

-- Both threads receive six packets, and each of the first five fills a batch.
theorem sample_observation : ∃ obs : Observation sampleGpu, ∃ result, obs.results = [result] := by
  obtain ⟨queue, stored, receives, consecutive, size, valid⟩ := sample_receives
  obtain ⟨batches, flags⟩ := sound_thread sampleGpu queue consecutive valid
  have count := congrArg List.length batches
  rw [List.length_map, size] at count
  exact ⟨⟨queue, queue, stored, stored, receives, receives⟩,
    sample_published _ (thread_chain sampleGpu (GpuPfbFft.initial sampleGpu) queue queue) count flags⟩

theorem recovery_sample : ∃ obs : Observation sampleGpu, ∃ result, obs.results = [result] ∧
    ∃ intervals : List (List Nat), List.Forall₂ obs.Measures obs.results intervals ∧
      ∀ interval, interval ∈ intervals ↔
        ∃ start k, obs.WholeRun start (numTaps - 1 + (k + 1) * sampleGpu.accLen) ∧
          interval = List.range' (obs.base + (start + (numTaps - 1) + k * sampleGpu.accLen)) sampleGpu.accLen := by
  obtain ⟨obs, result, published⟩ := sample_observation
  exact ⟨obs, result, published, obs.recovery rfl⟩

end SpectralLine
