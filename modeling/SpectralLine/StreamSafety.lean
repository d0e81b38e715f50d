import SpectralLine.StreamOrder
import SpectralLine.Lib.Schedule

set_option autoImplicit false

namespace SpectralLine

open Streams

section

variable {𝕜 : Type} (cfg : GpuConfig 𝕜)

-- Place k of the program is an operation of the turn after `past`.
def LaunchedAt (turns : List (WorkerTurn cfg)) (k : Nat) (past : List (WorkerTurn cfg)) (turn : WorkerTurn cfg)
    (op : DeviceOp cfg) : Prop :=
  ∃ rest before s after, turns = past ++ turn :: rest ∧ turn.instrs = before ++ .launch s op :: after ∧
    k = (programOf cfg past).length + before.length

theorem launched_place (turns : List (WorkerTurn cfg)) (k : Nat) (past : List (WorkerTurn cfg)) (turn : WorkerTurn cfg)
    (op : DeviceOp cfg) (launched : LaunchedAt cfg turns k past turn op) :
    ∃ rest before s after, turns = past ++ turn :: rest ∧ turn.instrs = before ++ .launch s op :: after ∧
      (programOf cfg turns)[k]? = some (.launch s op) ∧ (programOf cfg turns).take k = programOf cfg past ++ before := by
  obtain ⟨rest, before, s, after, split, instrs, place⟩ := launched
  have whole : programOf cfg turns = (programOf cfg past ++ before) ++ .launch s op :: (after ++ programOf cfg rest) := by
    rw [split, programOf, List.flatMap_append, List.flatMap_cons, instrs]
    simp only [programOf, List.append_assoc, List.cons_append]
  have size : k = (programOf cfg past ++ before).length := by rw [place, List.length_append]
  refine ⟨rest, before, s, after, split, instrs, ?_, ?_⟩
  · rw [whole, size, List.getElem?_append_right (Nat.le_refl _), Nat.sub_self]
    rfl
  · rw [whole, size, List.take_left]

def stageOf : GpuInstr cfg → Option Nat
  | .launch _ (.copyToDevice _ _) => some 0
  | .launch _ (.toRing _ _) => some 1
  | .launch _ (.pfbSum _ _) => some 2
  | .launch _ (.fft _) => some 3
  | .launch _ (.fftshift _) => some 3
  | .launch _ _ => some 4
  | _ => none

theorem side_stage (i : GpuInstr cfg) (side : resultSide cfg i = true) (stage : Nat) (is : stageOf cfg i = some stage) :
    stage = 4 := by
  cases i with
  | launch s op => cases s <;> cases op <;> simp_all [resultSide, stageOf]
  | record e s => cases is
  | wait s e => cases is
  | synchronize e => cases is
  | host action => cases is

theorem turn_staged (st : GpuPfbFft cfg) (turn : WorkerTurn cfg) (follows : Follows cfg st turn) :
    (turn.instrs.filterMap (stageOf cfg)).Pairwise (· ≤ ·) := by
  obtain ⟨state, instrs⟩ := follows_instrs cfg st turn follows
  have front : (frontInstrs cfg turn.pair state).filterMap (stageOf cfg) = [0, 0, 1, 1, 2, 2, 3, 3, 3, 3] := rfl
  have body : ∀ stage ∈ (stokesAccBody cfg turn.ready).2.filterMap (stageOf cfg), stage = 4 := by
    intro stage member
    obtain ⟨i, inside, is⟩ := List.mem_filterMap.mp member
    exact side_stage cfg i (stokes_acc_side cfg turn.ready i inside) stage is
  rw [instrs, List.filterMap_append, front]
  refine List.pairwise_append.mpr ⟨by decide, List.pairwise_of_forall_mem_list ?_, ?_⟩
  · intro a memberA b memberB
    rw [body a memberA, body b memberB]
  · intro a memberA b memberB
    rw [body b memberB]
    have low : ∀ x ∈ [0, 0, 1, 1, 2, 2, 3, 3, 3, 3], x ≤ 4 := by decide
    exact low a memberA

def InputOf : DeviceOp cfg → Loc → Prop
  | .toRing p _, l => l = .raw p
  | .pfbSum p _, l => l = .ring p
  | .stokesAccumulate _, l => l = .ffted .A ∨ l = .ffted .B
  | .continuumAccumulate _, l => l = .ffted .A ∨ l = .ffted .B
  | _, _ => False

theorem input_earlier (op writer : DeviceOp cfg) (s t : CudaStream) (l : Loc) (input : InputOf cfg op l)
    (writes : writer.dst = l) : ∃ early late, stageOf cfg (.launch t writer) = some early ∧
      stageOf cfg (.launch s op) = some late ∧ early < late := by
  subst writes
  cases op <;> cases writer <;> simp_all [InputOf, DeviceOp.dst, stageOf]

theorem input_settled (st : GpuPfbFft cfg) (turn : WorkerTurn cfg) (follows : Follows cfg st turn)
    (before after : List (GpuInstr cfg)) (s : CudaStream) (op : DeviceOp cfg)
    (instrs : turn.instrs = before ++ .launch s op :: after) (l : Loc) (input : InputOf cfg op l) :
    ∀ t writer, Instr.launch t writer ∈ Instr.launch s op :: after → l ≠ writer.dst := by
  have staged := turn_staged cfg st turn follows
  intro t writer member same
  obtain ⟨early, late, isEarly, isLate, order⟩ := input_earlier cfg op writer s t l input same.symm
  rw [instrs, List.filterMap_append, List.filterMap_cons_some isLate] at staged
  rcases List.mem_cons.mp member with here | later
  · rw [here, isLate] at isEarly
    rw [Option.some.inj isEarly] at order
    exact Nat.lt_irrefl _ order
  · have above := (List.pairwise_cons.mp (List.pairwise_append.mp staged).2.1).1 early
      (List.mem_filterMap.mpr ⟨_, later, isEarly⟩)
    omega

variable [Field 𝕜]

-- The shifted transform of the filter sum over a block and the three before it.
def OwnOutput (turns past : List (WorkerTurn cfg)) (p : Pol) (samples : Samples cfg) : Prop :=
  ∃ ring, RingHolds cfg ring (past.length + 1) (rawAt cfg turns p) ∧
    samples = fftshift1d cfg (cfg.fft (kernelPfbSum cfg ring (headAt cfg (past.length + 1))))

def OwnBlock (turns past : List (WorkerTurn cfg)) (turn : WorkerTurn cfg) (m : DeviceMemory cfg) : DeviceOp cfg → Prop
  | .toRing p head => m (.raw p) = inputBytes cfg turn.pair p ∧ head = headAt cfg past.length
  | .pfbSum p head => RingHolds cfg (m (.ring p)) (past.length + 1) (rawAt cfg turns p) ∧ head = headAt cfg (past.length + 1)
  | .stokesAccumulate _ => ∀ p, OwnOutput cfg turns past p (m (.ffted p))
  | .continuumAccumulate _ => ∀ p, OwnOutput cfg turns past p (m (.ffted p))
  | _ => True

theorem turn_leaves (turns past rest : List (WorkerTurn cfg)) (turn : WorkerTurn cfg)
    (chain : Chain cfg (GpuPfbFft.initial cfg) turns) (split : turns = past ++ turn :: rest) (p : Pol) :
    let after := execAll (gpuDevice cfg) turn.instrs (execAll (gpuDevice cfg) (programOf cfg past) (initialMemory cfg))
    after (.raw p) = inputBytes cfg turn.pair p ∧ RingHolds cfg (after (.ring p)) (past.length + 1) (rawAt cfg turns p) ∧
      OwnOutput cfg turns past p (after (.ffted p)) := by
  intro after
  obtain ⟨pfb, follows⟩ := chain_pfb_state cfg turns past rest turn chain split
  obtain ⟨ring, sum⟩ := follows_ring cfg past _ _ turn pfb follows p
  have same : ∀ j < past.length + 1, rawAt cfg (past ++ [turn]) p j = rawAt cfg turns p j := by
    intro j below
    have inside : j < (past ++ [turn]).length := by rw [List.length_append]; exact below
    have whole : turns = (past ++ [turn]) ++ rest := by rw [split, List.append_assoc]; rfl
    simp only [rawAt]
    rw [whole, List.getElem?_append_left inside]
  have holds := ring_holds_congr cfg _ _ _ _ same ring
  obtain ⟨state, taken, ready, _, instrs⟩ := follows
  have front := front_effect cfg turn.pair state (execAll (gpuDevice cfg) (programOf cfg past) (initialMemory cfg))
  have stays := stokes_acc_front cfg turn.ready (execAll (gpuDevice cfg) (copyInstrs cfg turn.pair ++ (submitPfbFft cfg state).2)
    (execAll (gpuDevice cfg) (programOf cfg past) (initialMemory cfg)))
  have shown : ∀ l, Front l → after l = execAll (gpuDevice cfg) (copyInstrs cfg turn.pair ++ (submitPfbFft cfg state).2)
      (execAll (gpuDevice cfg) (programOf cfg past) (initialMemory cfg)) l := by
    intro l isFront
    simp only [after]
    rw [instrs, exec_all_append]
    exact stays l isFront
  refine ⟨(shown (.raw p) trivial).trans (front.raw p), holds, after (.ring p), holds, ?_⟩
  rw [shown (.ffted p) trivial, front.ffted p, ← sum]
  exact congrArg _ (congrArg _ (shown (.pfbed p) trivial).symm)

theorem turn_heads (past : List (WorkerTurn cfg)) (st : GpuPfbFft cfg) (m : DeviceMemory cfg) (turn : WorkerTurn cfg)
    (pfb : PfbState cfg past st m) (follows : Follows cfg st turn) (s : CudaStream) (p : Pol) (head : Fin cfg.ringsize) :
    (Instr.launch s (.toRing p head) ∈ turn.instrs → head = headAt cfg past.length) ∧
    (Instr.launch s (.pfbSum p head) ∈ turn.instrs → head = headAt cfg (past.length + 1)) := by
  obtain ⟨state, taken, _, _, instrs⟩ := follows
  have start : state.pfbHead = headAt cfg past.length :=
    (take_pair_effect cfg st turn.pair state taken).keeps.1.trans pfb.head
  have back : ∀ op, Instr.launch s op ∈ (stokesAcc cfg turn.ready).2 → ¬ Front op.dst := by
    intro op member
    simp only [stokesAcc, List.cons_append, List.nil_append, List.mem_cons, reduceCtorEq, false_or] at member
    have side := stokes_acc_side cfg turn.ready _ member
    cases s <;> cases op <;> simp_all [resultSide, DeviceOp.dst, Front]
  constructor
  · intro member
    rw [instrs] at member
    rcases List.mem_append.mp member with front | acc
    · simp [copyInstrs, submitPfbFft] at front
      rcases front with ⟨_, _, same⟩ | ⟨_, _, same⟩ <;> exact same.trans start
    · exact absurd trivial (back _ acc)
  · intro member
    rw [instrs] at member
    rcases List.mem_append.mp member with front | acc
    · simp [copyInstrs, submitPfbFft] at front
      rcases front with ⟨_, _, same⟩ | ⟨_, _, same⟩ <;> rw [same, start, next_head_at]
    · exact absurd trivial (back _ acc)

-- In program order every operation finds the data of its own block.
theorem sequential_own (turns : List (WorkerTurn cfg)) (chain : Chain cfg (GpuPfbFft.initial cfg) turns) (k : Nat)
    (past : List (WorkerTurn cfg)) (turn : WorkerTurn cfg) (op : DeviceOp cfg)
    (launched : LaunchedAt cfg turns k past turn op) (m : DeviceMemory cfg)
    (sequential : ∀ l, Touches (gpuDevice cfg) (programOf cfg turns) k l →
      m l = seqMemory (gpuDevice cfg) (programOf cfg turns) (initialMemory cfg) k l) : OwnBlock cfg turns past turn m op := by
  obtain ⟨rest, before, s, after, split, instrs, found, prefixed⟩ := launched_place cfg turns k past turn op launched
  obtain ⟨pfb, follows⟩ := chain_pfb_state cfg turns past rest turn chain split
  have here : Instr.launch s op ∈ turn.instrs := by rw [instrs]; simp
  have inputs : ∀ l, InputOf cfg op l → DeviceOp.reads op l →
      m l = execAll (gpuDevice cfg) turn.instrs (execAll (gpuDevice cfg) (programOf cfg past) (initialMemory cfg)) l := by
    intro l input reads
    rw [sequential l ⟨s, op, found, Or.inr reads⟩, seqMemory, prefixed, instrs, exec_all_append, exec_all_append]
    exact (exec_untouched cfg l _ _ (input_settled cfg _ turn follows before after s op instrs l input)).symm
  have heads := turn_heads cfg past _ _ turn pfb follows s
  have leaves := turn_leaves cfg turns past rest turn chain split
  cases op with
  | copyToDevice p bytes => trivial
  | toRing p head => exact ⟨(inputs _ rfl (Or.inl rfl)).trans (leaves p).1, (heads p head).1 here⟩
  | pfbSum p head =>
      refine ⟨?_, (heads p head).2 here⟩
      rw [inputs (.ring p) rfl rfl]
      exact (leaves p).2.1
  | fft p => trivial
  | fftshift p => trivial
  | stokesAccumulate acc =>
      intro p
      cases p with
      | A => rw [inputs (.ffted .A) (Or.inl rfl) (Or.inl rfl)]; exact (leaves .A).2.2
      | B => rw [inputs (.ffted .B) (Or.inr rfl) (Or.inr (Or.inl rfl))]; exact (leaves .B).2.2
  | continuumAccumulate acc =>
      intro p
      cases p with
      | A => rw [inputs (.ffted .A) (Or.inl rfl) (Or.inl rfl)]; exact (leaves .A).2.2
      | B => rw [inputs (.ffted .B) (Or.inr rfl) (Or.inr (Or.inl rfl))]; exact (leaves .B).2.2
  | clearStokes acc => trivial
  | clearSum acc => trivial
  | copyStokes acc slot => trivial
  | copySum acc slot => trivial

abbrev workerSteps (guard : State (Val cfg) → Nat → Prop) (turns : List (WorkerTurn cfg)) : State (Val cfg) → State (Val cfg) → Prop :=
  Step (gpuDevice cfg) (programOf cfg turns) guard

abbrev WorkerReachable (guard : State (Val cfg) → Nat → Prop) (turns : List (WorkerTurn cfg)) : State (Val cfg) → Prop :=
  Reachable (gpuDevice cfg) (programOf cfg turns) guard (initialMemory cfg)

-- Nothing is overwritten before the operations issued earlier have read it.
abbrev KeptUp (turns : List (WorkerTurn cfg)) : State (Val cfg) → Nat → Prop :=
  Drained (Overwritten cfg (programOf cfg turns))

structure StreamSafe (guard : State (Val cfg) → Nat → Prop) (turns : List (WorkerTurn cfg)) (st : State (Val cfg)) : Prop where
  own : ∀ next k past turn op, workerSteps cfg guard turns st next → next.executed = st.executed ++ [k] →
    LaunchedAt cfg turns k past turn op → OwnBlock cfg turns past turn st.memory op
  published : ∀ slot, (programOf cfg turns)[st.issued]? = some (.host (.publish slot)) →
    ∀ l, l = .slotData slot ∨ l = .slotSum slot →
      st.memory l = execAll (gpuDevice cfg) ((programOf cfg turns).take st.issued) (initialMemory cfg) l
  finished : (∀ (k : Nat) (s : CudaStream) (op : DeviceOp cfg), (programOf cfg turns)[k]? = some (.launch s op) → k ∈ st.executed) →
    st.memory = execAll (gpuDevice cfg) (programOf cfg turns) (initialMemory cfg)

theorem stream_ordering (turns : List (WorkerTurn cfg)) (chain : Chain cfg (GpuPfbFft.initial cfg) turns)
    (st : State (Val cfg)) (reached : WorkerReachable cfg (KeptUp cfg turns) turns st) :
    StreamSafe cfg (KeptUp cfg turns) turns st := by
  have closed := reachable_closed _ _ _ _ st reached
  have ordered := drained_ordered cfg (GpuPfbFft.initial cfg) turns chain (initialMemory cfg)
  have tracks := reachable_tracks _ _ _ _ ordered st reached
  refine ⟨?_, ?_, ?_⟩
  · intro next k past turn op taken ran launched
    apply sequential_own cfg turns chain k past turn op launched
    intro l touches
    exact run_reads _ _ _ _ ordered st next k reached taken ran l touches
  · intro slot publishing l own
    apply tracks
    · intro i below writes
      exact published_copied cfg _ turns chain st closed slot publishing i below l own writes
    · intro i member _
      exact closed.issued i member
  · exact finished_sequential _ _ _ st tracks

-- The conversion of the first block is the ninth thing the worker issues.
omit [Field 𝕜] in
theorem first_conversion (st : GpuPfbFft cfg) (turn : WorkerTurn cfg) (rest : List (WorkerTurn cfg))
    (follows : Follows cfg st turn) : ∃ head, LaunchedAt cfg (turn :: rest) 8 [] turn (.toRing .A head) := by
  obtain ⟨state, instrs⟩ := follows_instrs cfg st turn follows
  refine ⟨state.pfbHead, rest, (frontInstrs cfg turn.pair state).take 8, .conv .A,
    (frontInstrs cfg turn.pair state).drop 9 ++ (stokesAccBody cfg turn.ready).2, rfl, ?_, rfl⟩
  rw [instrs]
  rfl

end

def racePair (batchId : Nat) (value : Byte) : Aligned sampleGpu :=
  let batch := { numberedBatch batchId true with buffer := fun _ => .memset value }
  ⟨batch, batch, false, [], []⟩

def raceTurns : List (WorkerTurn sampleGpu) :=
  pairTurns sampleGpu (GpuPfbFft.initial sampleGpu) [racePair 0 1, racePair 1 2]

def firstByte (bytes : Raw sampleGpu) : Byte := bytes ⟨0, by decide⟩

def rawByte (st : State (Val sampleGpu)) : Byte := firstByte (st.memory (.raw .A))

-- The copies of the first block run, and all of its work is issued.
def firstBlockIssued : List Choice :=
  List.replicate 4 .issue ++ [.run 0, .run 1, .run 2, .run 3] ++ List.replicate 23 .issue ++ [.run 6]

-- The first block is converted before the second is copied.
theorem stream_ordering_sample : ∃ st : State (Val sampleGpu), rawByte st = 2 ∧
    StreamSafe sampleGpu (KeptUp sampleGpu raceTurns) raceTurns st := by
  have run : (chooseAll (gpuDevice sampleGpu) (programOf sampleGpu raceTurns) (KeptUp sampleGpu raceTurns)
      ⟨0, [], initialMemory sampleGpu⟩ (firstBlockIssued ++ [.run 8, .run 26])).map rawByte = some 2 := by decide +kernel
  obtain ⟨st, reached, byte⟩ := Option.map_eq_some_iff.mp run
  exact ⟨st, byte, stream_ordering sampleGpu raceTurns (pair_turns_chain sampleGpu _ _) st
    (choose_all_reachable _ _ _ _ _ st _ Reachable.start reached)⟩

-- The second block is copied over the first before it is converted.
theorem stream_ordering_fails : ¬ ∀ (turns : List (WorkerTurn sampleGpu)) (st : State (Val sampleGpu)),
    Chain sampleGpu (GpuPfbFft.initial sampleGpu) turns → WorkerReachable sampleGpu (fun _ _ => True) turns st →
    StreamSafe sampleGpu (fun _ _ => True) turns st := by
  intro always
  have bytes : (raceTurns.map fun turn => firstByte (inputBytes sampleGpu turn.pair .A)) = [1, 2] := by decide +kernel
  have run : ((chooseAll (gpuDevice sampleGpu) (programOf sampleGpu raceTurns) (fun _ _ => True)
      ⟨0, [], initialMemory sampleGpu⟩ (firstBlockIssued ++ [.run 26])).map fun st =>
        (rawByte st, (choose (gpuDevice sampleGpu) (programOf sampleGpu raceTurns) (fun _ _ => True) st (.run 8)).isSome)) =
      some (2, true) := by decide +kernel
  obtain ⟨st, reached, seen⟩ := Option.map_eq_some_iff.mp run
  obtain ⟨second, next, taken⟩ := (Prod.mk.injEq ..).mp seen |>.imp_right Option.isSome_iff_exists.mp
  have chain : Chain sampleGpu (GpuPfbFft.initial sampleGpu) raceTurns := pair_turns_chain sampleGpu _ _
  have safe := always raceTurns st chain (choose_all_reachable _ _ _ _ _ st _ Reachable.start reached)
  cases turns : raceTurns with
  | nil =>
      rw [turns] at bytes
      cases bytes
  | cons turn rest =>
      rw [turns] at chain bytes
      cases chain with
      | cons _ _ _ follows _ =>
          obtain ⟨head, launched⟩ := first_conversion sampleGpu _ turn rest follows
          rw [← turns] at launched
          have own := (safe.own next 8 [] turn _ (choose_step _ _ _ st next _ taken) (choose_ran _ _ _ st next 8 taken) launched).1
          have copied : (2 : Byte) = firstByte (inputBytes sampleGpu turn.pair .A) := second.symm.trans (congrArg firstByte own)
          exact absurd (copied.trans (List.cons.inj bytes).1) (by decide)

end SpectralLine
