import SpectralLine.Pairing
import SpectralLine.Lib.Recent

set_option autoImplicit false

namespace SpectralLine

open Streams Recent

section

variable {𝕜 : Type} [Field 𝕜] (cfg : GpuConfig 𝕜)

-- The raw bytes each turn copied to the device.
def rawAt (turns : List (WorkerTurn cfg)) (p : Pol) (j : Nat) : Raw cfg :=
  match turns[j]? with
  | some turn => inputBytes cfg turn.pair p
  | none => fun _ => 0

def turnValid (turn : WorkerTurn cfg) : Bool := turn.pair.inputValid

-- The head, the countdown and the rings after the turns of a run.
structure PfbState (past : List (WorkerTurn cfg)) (st : GpuPfbFft cfg) (m : DeviceMemory cfg) : Prop where
  head : st.pfbHead = headAt cfg past.length
  remaining : st.pfbInvalidBlocksRemaining = numTaps - 1 - streak (turnValid cfg) past
  ring : ∀ p, RingHolds cfg (m (.ring p)) past.length (rawAt cfg past p)

theorem initial_pfb_state : PfbState cfg [] (GpuPfbFft.initial cfg) (initialMemory cfg) := by
  refine ⟨?_, rfl, fun p j before => absurd before (Nat.not_lt_zero j)⟩
  apply Fin.ext
  simp [GpuPfbFft.initial, headAt]

omit [Field 𝕜] in
theorem raw_at_past (past : List (WorkerTurn cfg)) (turn : WorkerTurn cfg) (p : Pol) (j : Nat) (before : j < past.length) :
    rawAt cfg (past ++ [turn]) p j = rawAt cfg past p j := by
  simp only [rawAt, List.getElem?_append_left before]

omit [Field 𝕜] in
theorem raw_at_last (past : List (WorkerTurn cfg)) (turn : WorkerTurn cfg) (p : Pol) :
    rawAt cfg (past ++ [turn]) p past.length = inputBytes cfg turn.pair p := by
  simp only [rawAt, List.getElem?_concat_length]

theorem ring_holds_congr (ring : Ring cfg) (turns : Nat) (raw other : Nat → Raw cfg) (same : ∀ j < turns, raw j = other j)
    (holds : RingHolds cfg ring turns raw) : RingHolds cfg ring turns other := by
  intro j before near p
  rw [holds j before near p, same j before]

omit [Field 𝕜] in
theorem follows_output (past : List (WorkerTurn cfg)) (st : GpuPfbFft cfg) (turn : WorkerTurn cfg)
    (remaining : st.pfbInvalidBlocksRemaining = numTaps - 1 - streak (turnValid cfg) past) (follows : Follows cfg st turn) :
    turn.after.pfbInvalidBlocksRemaining = numTaps - 1 - streak (turnValid cfg) (past ++ [turn]) ∧
    (turn.ready.currentPfbOutputValid = true ↔ numTaps ≤ streak (turnValid cfg) (past ++ [turn])) := by
  obtain ⟨state, taken, ready, after, _⟩ := follows
  have effect := take_pair_effect cfg st turn.pair state taken
  have kept := (stokes_acc_keeps cfg turn.ready).remaining
  have submitted : turn.ready.pfbInvalidBlocksRemaining = state.pfbInvalidBlocksRemaining := by rw [ready]; rfl
  have flag : turn.ready.currentPfbOutputValid = state.currentPfbOutputValid := by rw [ready]; rfl
  have taps : numTaps = 4 := rfl
  rw [after, kept, submitted, effect.remaining, flag, effect.output, streak_snoc, remaining, turnValid, taps]
  cases turn.pair.inputValid with
  | true =>
      rw [Bool.true_and, decide_eq_true_eq, if_pos rfl, if_pos rfl]
      omega
  | false => simp

theorem follows_ring (past : List (WorkerTurn cfg)) (st : GpuPfbFft cfg) (m : DeviceMemory cfg) (turn : WorkerTurn cfg)
    (before : PfbState cfg past st m) (follows : Follows cfg st turn) (p : Pol) :
    RingHolds cfg (execAll (gpuDevice cfg) turn.instrs m (.ring p)) (past.length + 1) (rawAt cfg (past ++ [turn]) p) ∧
    execAll (gpuDevice cfg) turn.instrs m (.pfbed p) =
      kernelPfbSum cfg (execAll (gpuDevice cfg) turn.instrs m (.ring p)) (headAt cfg (past.length + 1)) := by
  obtain ⟨state, taken, ready, after, instrs⟩ := follows
  have effect := take_pair_effect cfg st turn.pair state taken
  have front := front_effect cfg turn.pair state m
  have head : state.pfbHead = headAt cfg past.length := effect.keeps.1.trans before.head
  have stays := stokes_acc_front cfg turn.ready
    (execAll (gpuDevice cfg) (copyInstrs cfg turn.pair ++ (submitPfbFft cfg state).2) m)
  rw [instrs, exec_all_append, stays (.ring p) trivial, stays (.pfbed p) trivial]
  have ring := front.ring p
  have sum := front.pfbed p
  rw [head] at ring sum
  rw [next_head_at] at sum
  refine ⟨?_, sum⟩
  rw [ring, ← raw_at_last cfg past turn p]
  apply to_ring_holds
  apply ring_holds_congr cfg _ _ (rawAt cfg past p) _ _ (before.ring p)
  intro j inside
  exact (raw_at_past cfg past turn p j inside).symm

theorem turn_keeps_pfb (past : List (WorkerTurn cfg)) (st : GpuPfbFft cfg) (m : DeviceMemory cfg) (turn : WorkerTurn cfg)
    (before : PfbState cfg past st m) (follows : Follows cfg st turn) :
    PfbState cfg (past ++ [turn]) turn.after (execAll (gpuDevice cfg) turn.instrs m) := by
  have output := follows_output cfg past st turn before.remaining follows
  have ring := follows_ring cfg past st m turn before follows
  obtain ⟨state, taken, ready, after, _⟩ := follows
  have effect := take_pair_effect cfg st turn.pair state taken
  refine ⟨?_, output.1, ?_⟩
  · have submitted : turn.ready.pfbHead = nextHead cfg state.pfbHead := by rw [ready]; rfl
    rw [after, (stokes_acc_keeps cfg turn.ready).head, submitted, effect.keeps.1, before.head, next_head_at,
      List.length_append, List.length_singleton]
  · intro p
    rw [List.length_append, List.length_singleton]
    exact (ring p).1

-- A turn whose output is flagged valid filtered the batches of the last four
-- pairs, all complete.
theorem valid_output_window (past : List (WorkerTurn cfg)) (st : GpuPfbFft cfg) (m : DeviceMemory cfg)
    (turn : WorkerTurn cfg) (before : PfbState cfg past st m) (follows : Follows cfg st turn)
    (flagged : turn.ready.currentPfbOutputValid = true) :
    ∃ window : Fin numTaps → WorkerTurn cfg,
      (∀ t, (past ++ [turn])[past.length + 1 - numTaps + t.val]? = some (window t) ∧
        (window t).pair.inputValid = true) ∧
      execAll (gpuDevice cfg) turn.instrs m (.pfbed .A) =
        pfbOfBlocks cfg (fun t => batchBytes cfg (window t).pair.batchA) ∧
      execAll (gpuDevice cfg) turn.instrs m (.pfbed .B) =
        pfbOfBlocks cfg (fun t => batchBytes cfg (window t).pair.batchB) := by
  have long := (follows_output cfg past st turn before.remaining follows).2.mp flagged
  obtain ⟨enough, complete⟩ := (streak_recent _ _ _).mp long
  have size : (past ++ [turn]).length = past.length + 1 := by simp
  choose window member at_ using recent_at (past ++ [turn]) numTaps enough
  rw [size] at at_ enough
  have ring := follows_ring cfg past st m turn before follows
  have raw : ∀ t : Fin numTaps, ∀ p, rawAt cfg (past ++ [turn]) p (past.length + 1 - numTaps + t.val) =
      inputBytes cfg (window t).pair p := by
    intro t p
    simp only [rawAt, at_ t]
  have valid : ∀ t, (window t).pair.inputValid = true := fun t => complete _ (member t)
  refine ⟨window, fun t => ⟨at_ t, valid t⟩, ?_, ?_⟩
  · rw [(ring .A).2, pfb_sum_blocks cfg _ _ _ enough (ring .A).1]
    simp only [raw, inputBytes, valid, if_true]
  · rw [(ring .B).2, pfb_sum_blocks cfg _ _ _ enough (ring .B).1]
    simp only [raw, inputBytes, valid, if_true]

omit [Field 𝕜] in
theorem consecutive_take (queue : List (PacketBatch cfg.batchsize)) (start count : Nat)
    (ids : Consecutive cfg queue start) : Consecutive cfg (queue.take count) start := by
  rw [Consecutive, batchIds, List.map_take, List.length_take]
  rw [Consecutive, batchIds] at ids
  rw [ids]
  rcases Nat.le_total count queue.length with short | long
  · rw [List.take_range'_of_length_ge short, Nat.min_eq_left short]
  · rw [List.take_range'_of_length_le long, Nat.min_eq_right long]

omit [Field 𝕜] in
theorem thread_ids (st : GpuPfbFft cfg) (queueA queueB : List (PacketBatch cfg.batchsize)) (a b : Nat)
    (idsA : Consecutive cfg queueA a) (idsB : Consecutive cfg queueB b) :
    Consecutive cfg ((subbandThread cfg st queueA queueB).1.map fun turn => turn.pair.batchA) (max a b) ∧
    Consecutive cfg ((subbandThread cfg st queueA queueB).1.map fun turn => turn.pair.batchB) (max a b) := by
  obtain ⟨pairsA, pairsB, _⟩ := thread_pairs cfg st queueA queueB a b idsA idsB
  have topA : a + (max a b - a) = max a b := by omega
  have topB : b + (max a b - b) = max a b := by omega
  have restA := consecutive_take cfg _ _ (pairCount cfg queueA queueB a b) (consecutive_drop cfg queueA a (max a b - a) idsA)
  have restB := consecutive_take cfg _ _ (pairCount cfg queueA queueB a b) (consecutive_drop cfg queueB b (max a b - b) idsB)
  rw [← pairsA, topA] at restA
  rw [← pairsB, topB] at restB
  exact ⟨restA, restB⟩

omit [Field 𝕜] in
theorem consecutive_at (queue : List (PacketBatch cfg.batchsize)) (start k : Nat) (batch : PacketBatch cfg.batchsize)
    (ids : Consecutive cfg queue start) (at_ : queue[k]? = some batch) : batch.batchId = start + k := by
  have inside := (List.getElem?_eq_some_iff.mp at_).1
  have found : (batchIds cfg queue)[k]? = some batch.batchId := by rw [batchIds, List.getElem?_map, at_]; rfl
  rw [ids, List.getElem?_range' inside, Nat.one_mul] at found
  exact (Option.some.inj found).symm

def Sound (pair : Aligned cfg) : Prop := pair.gap = false ∧ pair.batchA.valid = true ∧ pair.batchB.valid = true

omit [Field 𝕜] in
theorem input_valid_sound (pair : Aligned cfg) : pair.inputValid = true ↔ Sound cfg pair := by
  simp [Aligned.inputValid, Sound, and_assoc]

theorem chain_pfb_state (turns past rest : List (WorkerTurn cfg)) (turn : WorkerTurn cfg)
    (chain : Chain cfg (GpuPfbFft.initial cfg) turns) (split : turns = past ++ turn :: rest) :
    PfbState cfg past (stateAfter cfg (GpuPfbFft.initial cfg) past)
      (execAll (gpuDevice cfg) (programOf cfg past) (initialMemory cfg)) ∧
    Follows cfg (stateAfter cfg (GpuPfbFft.initial cfg) past) turn := by
  rw [split] at chain
  obtain ⟨before, follows, _⟩ := chain_split cfg _ past rest turn chain
  have state := chain_run cfg (PfbState cfg) (turn_keeps_pfb cfg) [] past _ _ (initial_pfb_state cfg) before
  rw [List.nil_append] at state
  exact ⟨state, follows⟩

theorem thread_pfb_state (queueA queueB : List (PacketBatch cfg.batchsize)) (past rest : List (WorkerTurn cfg))
    (turn : WorkerTurn cfg) (split : (subbandThread cfg (GpuPfbFft.initial cfg) queueA queueB).1 = past ++ turn :: rest) :
    PfbState cfg past (stateAfter cfg (GpuPfbFft.initial cfg) past)
      (execAll (gpuDevice cfg) (programOf cfg past) (initialMemory cfg)) ∧
    Follows cfg (stateAfter cfg (GpuPfbFft.initial cfg) past) turn :=
  chain_pfb_state cfg _ past rest turn (thread_chain cfg (GpuPfbFft.initial cfg) queueA queueB) split

theorem thread_output (queueA queueB : List (PacketBatch cfg.batchsize)) (past rest : List (WorkerTurn cfg))
    (turn : WorkerTurn cfg) (split : (subbandThread cfg (GpuPfbFft.initial cfg) queueA queueB).1 = past ++ turn :: rest) :
    turn.ready.currentPfbOutputValid = true ↔
      numTaps ≤ past.length + 1 ∧ ∀ other ∈ recent numTaps (past ++ [turn]), Sound cfg other.pair := by
  obtain ⟨state, follows⟩ := thread_pfb_state cfg queueA queueB past rest turn split
  rw [(follows_output cfg past _ turn state.remaining follows).2, streak_recent, List.length_append, List.length_singleton]
  simp only [turnValid, input_valid_sound]

theorem polarisation_pairing (queueA queueB : List (PacketBatch cfg.batchsize)) (a b : Nat)
    (idsA : Consecutive cfg queueA a) (idsB : Consecutive cfg queueB b) :
    let turns := (subbandThread cfg (GpuPfbFft.initial cfg) queueA queueB).1
    (turns.map fun turn => turn.pair.batchA) = (queueA.drop (max a b - a)).take turns.length ∧
    (turns.map fun turn => turn.pair.batchB) = (queueB.drop (max a b - b)).take turns.length ∧
    turns.length = pairCount cfg queueA queueB a b ∧
    (turns.map fun turn => turn.pair.batchA.batchId) = List.range' (max a b) turns.length ∧
    (turns.map fun turn => turn.pair.batchB.batchId) = List.range' (max a b) turns.length ∧
    ∀ past turn rest, turns = past ++ turn :: rest →
      (turn.ready.currentPfbOutputValid = true ↔
        numTaps ≤ past.length + 1 ∧ ∀ other ∈ recent numTaps (past ++ [turn]), Sound cfg other.pair) ∧
      (turn.ready.currentPfbOutputValid = true → ∃ window : Fin numTaps → WorkerTurn cfg,
        (∀ t, Sound cfg (window t).pair ∧
          (window t).pair.batchA.batchId = max a b + (past.length + 1 - numTaps + t.val) ∧
          (window t).pair.batchB.batchId = max a b + (past.length + 1 - numTaps + t.val)) ∧
        execAll (gpuDevice cfg) (programOf cfg (past ++ [turn])) (initialMemory cfg) (.pfbed .A) =
          pfbOfBlocks cfg (fun t => batchBytes cfg (window t).pair.batchA) ∧
        execAll (gpuDevice cfg) (programOf cfg (past ++ [turn])) (initialMemory cfg) (.pfbed .B) =
          pfbOfBlocks cfg (fun t => batchBytes cfg (window t).pair.batchB)) := by
  intro turns
  obtain ⟨pairsA, pairsB, _⟩ := thread_pairs cfg (GpuPfbFft.initial cfg) queueA queueB a b idsA idsB
  obtain ⟨numbersA, numbersB⟩ := thread_ids cfg (GpuPfbFft.initial cfg) queueA queueB a b idsA idsB
  have count : turns.length = pairCount cfg queueA queueB a b := by
    have size := congrArg List.length pairsA
    rw [List.length_map, List.length_take, List.length_drop] at size
    have limit : pairCount cfg queueA queueB a b ≤ queueA.length - (max a b - a) := by simp only [pairCount]; omega
    rw [size, Nat.min_eq_left limit]
  have idListA := numbersA
  have idListB := numbersB
  rw [Consecutive, batchIds, List.map_map, List.length_map] at idListA idListB
  refine ⟨by rw [count]; exact pairsA, by rw [count]; exact pairsB, count, idListA, idListB, ?_⟩
  intro past turn rest split
  obtain ⟨state, follows⟩ := thread_pfb_state cfg queueA queueB past rest turn split
  refine ⟨thread_output cfg queueA queueB past rest turn split, ?_⟩
  · intro flagged
    obtain ⟨window, windows, sumA, sumB⟩ := valid_output_window cfg past _ _ turn state follows flagged
    refine ⟨window, ?_, ?_, ?_⟩
    · intro t
      have place : turns[past.length + 1 - numTaps + t.val]? = some (window t) := by
        have whole : turns = (past ++ [turn]) ++ rest := by rw [split, List.append_assoc]; rfl
        have inside := (List.getElem?_eq_some_iff.mp (windows t).1).1
        rw [whole, List.getElem?_append_left inside]
        exact (windows t).1
      refine ⟨(input_valid_sound cfg _).mp (windows t).2, ?_, ?_⟩
      · exact consecutive_at cfg _ _ _ _ numbersA (by rw [List.getElem?_map, place]; rfl)
      · exact consecutive_at cfg _ _ _ _ numbersB (by rw [List.getElem?_map, place]; rfl)
    · rw [programOf, List.flatMap_append, List.flatMap_singleton, exec_all_append]
      exact sumA
    · rw [programOf, List.flatMap_append, List.flatMap_singleton, exec_all_append]
      exact sumB

end

-- One packet for each batch, two blocks for each integration.
def sampleGpu : GpuConfig ℚ where
  batchsize := 1
  batchsizePos := Nat.one_pos
  totalNfftInt := by decide
  filters := fun _ => 1
  fft := id
  accLen := 2
  accLenPos := Nat.two_pos
  spectral := true
  calMode := false
  noiseSource := ⟨1, 50, 0⟩

def numberedBatch (batchId : Nat) (valid : Bool) : PacketBatch sampleGpu.batchsize :=
  { allocatePacketBatch sampleGpu.batchsize with batchId := batchId, valid := valid }

def sampleQueueA : List (PacketBatch sampleGpu.batchsize) := (List.range' 3 9).map fun id => numberedBatch id true

def sampleQueueB : List (PacketBatch sampleGpu.batchsize) := (List.range' 5 9).map fun id => numberedBatch id (id != 6)

-- Seven pairs, the second of which is incomplete.
theorem polarisation_pairing_sample :
    ((subbandThread sampleGpu (GpuPfbFft.initial sampleGpu) sampleQueueA sampleQueueB).1.map fun turn =>
      turn.pair.batchA.batchId) = [5, 6, 7, 8, 9, 10, 11] := by
  have result := polarisation_pairing sampleGpu sampleQueueA sampleQueueB 3 5 rfl rfl
  have count := result.2.2.1
  have ids := result.2.2.2.1
  rw [ids, count]
  rfl

end SpectralLine
