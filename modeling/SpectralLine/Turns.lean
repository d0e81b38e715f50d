import SpectralLine.Worker

set_option autoImplicit false

namespace SpectralLine

open Streams

section

variable {𝕜 : Type} [Field 𝕜] (cfg : GpuConfig 𝕜)

-- What a turn does from the state the one before it left.
def Follows (st : GpuPfbFft cfg) (turn : WorkerTurn cfg) : Prop :=
  ∃ state, takePair cfg st turn.pair = .ok state ∧ turn.ready = (submitPfbFft cfg state).1 ∧
    turn.after = (stokesAcc cfg turn.ready).1 ∧
    turn.instrs = copyInstrs cfg turn.pair ++ (submitPfbFft cfg state).2 ++ (stokesAcc cfg turn.ready).2

-- The turns of a run of the worker, whatever the queues delivered.
inductive Chain : GpuPfbFft cfg → List (WorkerTurn cfg) → Prop
  | nil (st : GpuPfbFft cfg) : Chain st []
  | cons (st : GpuPfbFft cfg) (turn : WorkerTurn cfg) (rest : List (WorkerTurn cfg)) (follows : Follows cfg st turn)
      (later : Chain turn.after rest) : Chain st (turn :: rest)

def programOf (turns : List (WorkerTurn cfg)) : List (GpuInstr cfg) := turns.flatMap WorkerTurn.instrs

def stateAfter (st : GpuPfbFft cfg) (turns : List (WorkerTurn cfg)) : GpuPfbFft cfg :=
  turns.foldl (fun _ turn => turn.after) st

omit [Field 𝕜] in
theorem thread_chain (st : GpuPfbFft cfg) (queueA queueB : List (PacketBatch cfg.batchsize)) :
    Chain cfg st (subbandThread cfg st queueA queueB).1 := by
  fun_induction subbandThread cfg st queueA queueB with
  | case1 st queueA queueB halt stopped => exact Chain.nil st
  | case2 st queueA queueB turn taken rest ih =>
      obtain ⟨state, _, done, ready, after, instrs⟩ := turn_cases cfg st queueA queueB turn taken
      exact Chain.cons st turn _ ⟨state, done, ready, after, instrs⟩ ih

omit [Field 𝕜] in
theorem chain_split (st : GpuPfbFft cfg) (past rest : List (WorkerTurn cfg)) (turn : WorkerTurn cfg)
    (chain : Chain cfg st (past ++ turn :: rest)) :
    Chain cfg st past ∧ Follows cfg (stateAfter cfg st past) turn ∧ Chain cfg turn.after rest := by
  induction past generalizing st with
  | nil =>
      cases chain with
      | cons _ _ _ follows later => exact ⟨Chain.nil st, follows, later⟩
  | cons head past ih =>
      cases chain with
      | cons _ _ _ follows later =>
          obtain ⟨before, now, after⟩ := ih head.after later
          exact ⟨Chain.cons st head past follows before, now, after⟩

-- The turns on given pairs, up to an exception.
def pairTurns : GpuPfbFft cfg → List (Aligned cfg) → List (WorkerTurn cfg)
  | _, [] => []
  | st, pair :: rest =>
      match takePair cfg st pair with
      | .error _ => []
      | .ok state =>
          let ready := (submitPfbFft cfg state).1
          let after := (stokesAcc cfg ready).1
          ⟨pair, ready, after, copyInstrs cfg pair ++ (submitPfbFft cfg state).2 ++ (stokesAcc cfg ready).2⟩ ::
            pairTurns after rest

omit [Field 𝕜] in
theorem pair_turns_chain (st : GpuPfbFft cfg) (pairs : List (Aligned cfg)) : Chain cfg st (pairTurns cfg st pairs) := by
  induction pairs generalizing st with
  | nil => exact Chain.nil st
  | cons pair rest ih =>
      cases taken : takePair cfg st pair with
      | error halt =>
          simp only [pairTurns, taken]
          exact Chain.nil st
      | ok state =>
          simp only [pairTurns, taken]
          exact Chain.cons st _ _ ⟨state, taken, rfl, rfl, rfl⟩ (ih _)

-- What every turn preserves holds after a run.
theorem chain_run (Inv : List (WorkerTurn cfg) → GpuPfbFft cfg → DeviceMemory cfg → Prop)
    (step : ∀ past st m turn, Inv past st m → Follows cfg st turn →
      Inv (past ++ [turn]) turn.after (execAll (gpuDevice cfg) turn.instrs m))
    (past turns : List (WorkerTurn cfg)) (st : GpuPfbFft cfg) (m : DeviceMemory cfg) (start : Inv past st m)
    (chain : Chain cfg st turns) :
    Inv (past ++ turns) (stateAfter cfg st turns) (execAll (gpuDevice cfg) (programOf cfg turns) m) := by
  induction turns generalizing past st m with
  | nil =>
      rw [List.append_nil]
      exact start
  | cons turn rest ih =>
      cases chain with
      | cons _ _ _ follows later =>
          have next := ih (past ++ [turn]) turn.after _ (step past st m turn start follows) later
          rw [List.append_assoc] at next
          rw [programOf, List.flatMap_cons, exec_all_append]
          exact next

structure Taken (st : GpuPfbFft cfg) (pair : Aligned cfg) (state : GpuPfbFft cfg) : Prop where
  timestamp : blockTimestampNs cfg pair.batchA = .ok state.timestampNs
  output : state.currentPfbOutputValid = (pair.inputValid && decide (st.pfbInvalidBlocksRemaining = 0))
  remaining : state.pfbInvalidBlocksRemaining = if pair.inputValid then st.pfbInvalidBlocksRemaining - 1 else numTaps - 1
  noise : cfg.calMode = true → state.noiseState = noiseStateOf (pair.batchA.noiseState (firstSlotOf cfg)) ∧
    state.noiseCycleStartNs = (updateNoiseState cfg { st with timestampNs := state.timestampNs }
      (noiseStateOf (pair.batchA.noiseState (firstSlotOf cfg)))).noiseCycleStartNs
  keeps : state.pfbHead = st.pfbHead ∧ state.hhead = st.hhead ∧ state.accId = st.accId ∧ state.accOnId = st.accOnId ∧
    state.accOffId = st.accOffId ∧ state.accOnFirstTimestampNs = st.accOnFirstTimestampNs ∧
    state.accOffFirstTimestampNs = st.accOffFirstTimestampNs ∧
    state.accumulatorsResetForGap = st.accumulatorsResetForGap

omit [Field 𝕜] in
theorem take_pair_effect (st : GpuPfbFft cfg) (pair : Aligned cfg) (state : GpuPfbFft cfg)
    (taken : takePair cfg st pair = .ok state) : Taken cfg st pair state := by
  unfold takePair at taken
  split at taken
  · cases taken
  · rename_i timestampNs found
    cases taken
    cases cal : cfg.calMode with
    | false => constructor <;> by_cases valid : pair.inputValid = true <;> grind [numTaps]
    | true => constructor <;> by_cases valid : pair.inputValid = true <;> grind [numTaps, updateNoiseState]

-- StokesAcc leaves what accumulate_one_block and submit_PFB_FFT own.
structure Kept (st after : GpuPfbFft cfg) : Prop where
  head : after.pfbHead = st.pfbHead
  remaining : after.pfbInvalidBlocksRemaining = st.pfbInvalidBlocksRemaining
  noise : after.noiseState = st.noiseState
  cycle : after.noiseCycleStartNs = st.noiseCycleStartNs

omit [Field 𝕜] in
theorem stokes_acc_keeps (st : GpuPfbFft cfg) : Kept cfg st (stokesAcc cfg st).1 := by
  change Kept cfg st (stokesAccBody cfg st).1
  unfold stokesAccBody resetForGap accumulateOn accumulateOff accumulatePlain
  extract_lets
  split_ifs <;> exact ⟨rfl, rfl, rfl, rfl⟩

def Front : Loc → Prop
  | .raw _ => True
  | .ring _ => True
  | .pfbed _ => True
  | .ffted _ => True
  | _ => False

theorem exec_elsewhere (s : CudaStream) (op : DeviceOp cfg) (m : DeviceMemory cfg) (l : Loc) (other : l ≠ op.dst) :
    execInstr (gpuDevice cfg) (.launch s op : GpuInstr cfg) m l = m l := Function.update_of_ne other ..

-- A list of instructions whose launches write only outside `l`.
theorem exec_untouched (l : Loc) (instrs : List (GpuInstr cfg)) (m : DeviceMemory cfg)
    (outside : ∀ s op, Instr.launch s op ∈ instrs → l ≠ DeviceOp.dst op) : execAll (gpuDevice cfg) instrs m l = m l := by
  induction instrs generalizing m with
  | nil => rfl
  | cons i rest ih =>
      have later : ∀ s op, Instr.launch s op ∈ rest → l ≠ DeviceOp.dst op :=
        fun s op member => outside s op (List.mem_cons_of_mem i member)
      rw [exec_all_cons, ih _ later]
      cases i with
      | launch s op => exact exec_elsewhere cfg s op m l (outside s op (List.mem_cons_self ..))
      | record e s => rfl
      | wait s e => rfl
      | synchronize e => rfl
      | host action => rfl

-- The instructions of StokesAcc after its waits: all on sD2H or on the host.
def resultSide : GpuInstr cfg → Bool
  | .launch .d2h (.stokesAccumulate _) => true
  | .launch .d2h (.continuumAccumulate _) => true
  | .launch .d2h (.clearStokes _) => true
  | .launch .d2h (.clearSum _) => true
  | .launch .d2h (.copyStokes _ _) => true
  | .launch .d2h (.copySum _ _) => true
  | .record (.slotDone _) .d2h => true
  | .synchronize (.slotDone _) => true
  | .host _ => true
  | _ => false

omit [Field 𝕜] in
theorem accumulate_side (acc : NoiseState) : resultSide cfg (accumulate cfg acc) = true := by
  cases mode : cfg.spectral <;> simp [accumulate, mode, resultSide]

omit [Field 𝕜] in
theorem expose_side (acc : NoiseState) (slot : Fin numSlots) : ∀ i ∈ exposeSlot cfg acc slot, resultSide cfg i = true := by
  cases mode : cfg.spectral <;> simp [exposeSlot, mode, resultSide]

omit [Field 𝕜] in
theorem cal_publish_side (acc : NoiseState) (slot : Fin numSlots) (first last : Nat) :
    ∀ i ∈ calPublish cfg acc slot first last, resultSide cfg i = true := by
  intro i member
  simp only [calPublish, clearAccumulators, List.cons_append, List.nil_append, List.mem_cons, List.mem_append,
    List.not_mem_nil, or_false] at member
  rcases member with rfl | rfl | exposed | rfl | rfl
  · rfl
  · rfl
  · exact expose_side cfg acc slot i exposed
  · rfl
  · rfl

omit [Field 𝕜] in
theorem stokes_acc_side (st : GpuPfbFft cfg) : ∀ i ∈ (stokesAccBody cfg st).2, resultSide cfg i = true := by
  intro i member
  unfold stokesAccBody at member
  by_cases invalid : (!st.currentPfbOutputValid) = true
  · rw [if_pos invalid, resetForGap] at member
    cases mode : cfg.spectral <;> by_cases done : st.accumulatorsResetForGap = true <;>
      simp [mode, done] at member <;> rcases member with rfl | rfl <;> rfl
  rw [if_neg invalid] at member
  extract_lets current at member
  by_cases cal : cfg.calMode = true
  · rw [if_pos cal] at member
    by_cases blank : isNoiseBlank cfg current current.timestampNs = true
    · simp [blank] at member
    rw [if_neg blank] at member
    by_cases on : current.noiseState = .on
    · rw [if_pos on, accumulateOn] at member
      split at member
      · rcases List.mem_cons.mp member with rfl | published
        · exact accumulate_side cfg .on
        · exact cal_publish_side cfg .on _ _ _ i published
      · obtain rfl := List.mem_singleton.mp member
        exact accumulate_side cfg .on
    · rw [if_neg on, accumulateOff] at member
      split at member
      · rcases List.mem_cons.mp member with rfl | published
        · exact accumulate_side cfg .off
        · exact cal_publish_side cfg .off _ _ _ i published
      · obtain rfl := List.mem_singleton.mp member
        exact accumulate_side cfg .off
  · rw [if_neg cal, accumulatePlain] at member
    have start : ∀ i ∈ (if current.accId = 0 then [(.host (.setFirst current.hhead current.timestampNs) : GpuInstr cfg)]
        else []), resultSide cfg i = true := by
      split <;> simp [resultSide]
    split at member
    · simp only [List.mem_append, List.mem_cons, List.not_mem_nil, or_false] at member
      rcases member with ((first | rfl | rfl) | exposed) | rfl | rfl
      · exact start i first
      · exact accumulate_side cfg .off
      · rfl
      · exact expose_side cfg .off _ i exposed
      · rfl
      · rfl
    · simp only [List.mem_append, List.mem_singleton] at member
      rcases member with first | rfl
      · exact start i first
      · exact accumulate_side cfg .off

theorem stokes_acc_front (st : GpuPfbFft cfg) (m : DeviceMemory cfg) (l : Loc) (front : Front l) :
    execAll (gpuDevice cfg) (stokesAcc cfg st).2 m l = m l := by
  apply exec_untouched
  intro s op member same
  subst same
  simp only [stokesAcc, List.cons_append, List.nil_append, List.mem_cons, reduceCtorEq, false_or] at member
  have side := stokes_acc_side cfg st _ member
  cases s <;> cases op <;> simp [resultSide, DeviceOp.dst, Front] at side front

structure FrontEffect (pair : Aligned cfg) (head : Fin cfg.ringsize) (m n : DeviceMemory cfg) : Prop where
  raw : ∀ p, n (.raw p) = inputBytes cfg pair p
  ring : ∀ p, n (.ring p) = uint8OffsetIQToRing cfg (inputBytes cfg pair p) (m (.ring p)) head
  pfbed : ∀ p, n (.pfbed p) = kernelPfbSum cfg (n (.ring p)) (nextHead cfg head)
  ffted : ∀ p, n (.ffted p) = fftshift1d cfg (cfg.fft (n (.pfbed p)))
  rest : ∀ l, ¬ Front l → n l = m l

theorem front_effect (pair : Aligned cfg) (st : GpuPfbFft cfg) (m : DeviceMemory cfg) :
    FrontEffect cfg pair st.pfbHead m (execAll (gpuDevice cfg) (copyInstrs cfg pair ++ (submitPfbFft cfg st).2) m) := by
  constructor
  · intro p
    cases p <;> rfl
  · intro p
    cases p <;> rfl
  · intro p
    cases p <;> rfl
  · intro p
    cases p <;> rfl
  · intro l back
    apply exec_untouched
    intro s op member same
    subst same
    apply back
    simp only [copyInstrs, submitPfbFft, List.cons_append, List.nil_append, List.mem_cons, Instr.launch.injEq,
      reduceCtorEq, List.not_mem_nil, or_false, false_or] at member
    rcases member with ⟨_, rfl⟩ | ⟨_, rfl⟩ | ⟨_, rfl⟩ | ⟨_, rfl⟩ | ⟨_, rfl⟩ | ⟨_, rfl⟩ | ⟨_, rfl⟩ | ⟨_, rfl⟩ | ⟨_, rfl⟩ |
      ⟨_, rfl⟩ <;> exact trivial

end

end SpectralLine
