import SpectralLine.PfbRing
import SpectralLine.Worker
import SpectralLine.Results
import SpectralLine.Lib.TreeSum
import Mathlib.Algebra.BigOperators.Fin

set_option autoImplicit false

namespace SpectralLine

-- StokesAcc in its two modes, at any FFT length. As in Pfb, buffers are indexed
-- from 0 and what is said about them stays below their lengths.
namespace Modes

variable {𝕜 : Type} [Field 𝕜]

-- The order in which the blocks of a launch reach their atomicAdd.
structure LaunchOrder (N : Nat) where
  blocks : List Nat
  all : blocks.Perm (List.range ((N + 255) / 256))

-- fmaf(ax, ax, ay * ay) + fmaf(bx, bx, by * by)
def power (A B : Nat → Cx 𝕜) (idx : Nat) : 𝕜 :=
  ((A idx).re * (A idx).re + (A idx).im * (A idx).im) + ((B idx).re * (B idx).re + (B idx).im * (B idx).im)

def blockShared (N : Nat) (A B : Nat → Cx 𝕜) (block tid : Nat) : 𝕜 :=
  if block * 256 + tid < N then power A B (block * 256 + tid) else 0

-- blockDim.x is 256; the unrolled shifts are 32 down to 1.
def blockPower (N : Nat) (A B : Nat → Cx 𝕜) (block : Nat) : 𝕜 :=
  let sdata := TreeSum.halvingLoop 32 (256 / 2) (blockShared N A B block)
  [32, 16, 8, 4, 2, 1].foldl (fun vsmem shift => TreeSum.addShifted 32 shift vsmem) sdata 0

def continuumPowerAccumulate (N : Nat) (A B : Nat → Cx 𝕜) (order : LaunchOrder N) (sumPower : 𝕜) : 𝕜 :=
  order.blocks.foldl (fun sum block => sum + blockPower N A B block) sumPower

def stokesAt (A B : Nat → Cx 𝕜) (idx : Nat) : Float4 𝕜 :=
  let x := A idx
  let y := B idx
  ![x.re * x.re + x.im * x.im, y.re * y.re + y.im * y.im, x.re * y.im, x.im * y.re]

def stokesIQUVAccumulate (N : Nat) (A B : Nat → Cx 𝕜) (sumStokes : Nat → Float4 𝕜) : Nat → Float4 𝕜 :=
  (Pfb.gridThreads N).foldl (fun sum idx =>
    if N ≤ idx then sum else Function.update sum idx (sum idx + stokesAt A B idx)) sumStokes

theorem block_power_sum (N : Nat) (A B : Nat → Cx 𝕜) (block : Nat) :
    blockPower N A B block = ∑ tid ∈ Finset.range 256, blockShared N A B block tid := by
  have tail := TreeSum.lockstep_tail_sum 32 6 (by decide) (TreeSum.halvingLoop 32 (256 / 2) (blockShared N A B block))
  have loop := TreeSum.halving_loop_sum 32 2 (blockShared N A B block)
  exact tail.trans loop

theorem continuum_power_sum (N : Nat) (A B : Nat → Cx 𝕜) (order : LaunchOrder N) (sumPower : 𝕜) :
    continuumPowerAccumulate N A B order sumPower = sumPower + ∑ k ∈ Finset.range N, power A B k := by
  have covers : N ≤ (N + 255) / 256 * 256 := by omega
  rw [continuumPowerAccumulate, TreeSum.atomic_sum order.blocks _ order.all, Finset.sum_congr rfl fun block _ =>
    block_power_sum N A B block]
  rw [← TreeSum.guarded_sum N _ covers, ← TreeSum.blocks_sum]
  rfl

theorem stokes_accumulate_at (N : Nat) (A B : Nat → Cx 𝕜) (sumStokes : Nat → Float4 𝕜) (k : Nat) (inside : k < N) :
    stokesIQUVAccumulate N A B sumStokes k = sumStokes k + stokesAt A B k := by
  rw [stokesIQUVAccumulate, Pfb.grid_guard,
    Keyed.modify_listed (fun idx sum => sum + stokesAt A B idx) (List.range N) List.nodup_range sumStokes k,
    if_pos (List.mem_range.mpr inside)]

def totalPower (N : Nat) (stokes : Nat → Float4 𝕜) : 𝕜 := ∑ k ∈ Finset.range N, (stokes k 0 + stokes k 1)

theorem total_power_accumulate (N : Nat) (A B : Nat → Cx 𝕜) (order : LaunchOrder N) (sumStokes : Nat → Float4 𝕜) :
    continuumPowerAccumulate N A B order (totalPower N sumStokes) = totalPower N (stokesIQUVAccumulate N A B sumStokes) := by
  have bins : ∀ k ∈ Finset.range N, stokesIQUVAccumulate N A B sumStokes k 0 + stokesIQUVAccumulate N A B sumStokes k 1 =
      (sumStokes k 0 + sumStokes k 1) + power A B k := by
    intro k member
    rw [stokes_accumulate_at N A B sumStokes k (Finset.mem_range.mp member)]
    simp only [Pi.add_apply, stokesAt, power, Matrix.cons_val_zero, Matrix.cons_val_one]
    ring
  rw [continuum_power_sum, totalPower, totalPower, Finset.sum_congr rfl bins]
  exact Finset.sum_add_distrib.symm

-- What StokesAcc finds for one block, and how its launch will end.
structure Block (𝕜 : Type) (N : Nat) where
  outputValid : Bool
  noiseState : NoiseState
  timestampNs : Nat
  A : Nat → Cx 𝕜
  B : Nat → Cx 𝕜
  order : LaunchOrder N

structure Memory (𝕜 : Type) where
  stokes : NoiseState → Nat → Float4 𝕜
  sumPower : NoiseState → 𝕜
  slotData : Fin numSlots → Nat → Float4 𝕜
  slotSum : Fin numSlots → 𝕜

-- A slot as it stands when `used` is set.
structure Result (𝕜 : Type) where
  data : Nat → Float4 𝕜
  sumPower : 𝕜
  firstTimestampNs : Nat
  lastTimestampNs : Nat
  noiseState : NoiseState

structure Side (𝕜 : Type) where
  memory : Memory 𝕜
  slots : Fin numSlots → HostRingSlot
  published : List (Result 𝕜)

def Side.initial : Side 𝕜 where
  memory := { stokes := fun _ _ => 0, sumPower := fun _ => 0, slotData := fun _ _ => 0, slotSum := fun _ => 0 }
  slots := fun _ => ⟨0, 0, .off⟩
  published := []

def snapshot (side : Side 𝕜) (slot : Fin numSlots) : Result 𝕜 where
  data := side.memory.slotData slot
  sumPower := side.memory.slotSum slot
  firstTimestampNs := (side.slots slot).firstTimestampNs
  lastTimestampNs := (side.slots slot).lastTimestampNs
  noiseState := (side.slots slot).noiseState

-- A memset or a copy of N elements.
def overwrite (N : Nat) (source target : Nat → Float4 𝕜) (k : Nat) : Float4 𝕜 := if k < N then source k else target k

section

variable {N : Nat} (cfg : GpuConfig 𝕜) (block : Block 𝕜 N)

-- StokesAcc issues the last six operations only.
def launch (m : Memory 𝕜) : DeviceOp cfg → Memory 𝕜
  | .copyToDevice _ _ => m
  | .toRing _ _ => m
  | .pfbSum _ _ => m
  | .fft _ => m
  | .fftshift _ => m
  | .stokesAccumulate acc =>
      { m with stokes := Function.update m.stokes acc (stokesIQUVAccumulate N block.A block.B (m.stokes acc)) }
  | .continuumAccumulate acc =>
      { m with sumPower := Function.update m.sumPower acc (continuumPowerAccumulate N block.A block.B block.order (m.sumPower acc)) }
  | .clearStokes acc => { m with stokes := Function.update m.stokes acc (overwrite N (fun _ => 0) (m.stokes acc)) }
  | .clearSum acc => { m with sumPower := Function.update m.sumPower acc 0 }
  | .copyStokes acc slot => { m with slotData := Function.update m.slotData slot (overwrite N (m.stokes acc) (m.slotData slot)) }
  | .copySum acc slot => { m with slotSum := Function.update m.slotSum slot (m.sumPower acc) }

def execute (side : Side 𝕜) : GpuInstr cfg → Side 𝕜
  | .launch _ op => { side with memory := launch cfg block side.memory op }
  | .record _ _ => side
  | .wait _ _ => side
  | .synchronize _ => side
  | .host (.publish slot) => { side with published := side.published ++ [snapshot side slot] }
  | .host action => { side with slots := storeSlot side.slots action }

def executeAll (instrs : List (GpuInstr cfg)) (side : Side 𝕜) : Side 𝕜 := instrs.foldl (execute cfg block) side

def load (st : GpuPfbFft cfg) : GpuPfbFft cfg :=
  let st := { st with timestampNs := block.timestampNs, currentPfbOutputValid := block.outputValid }
  if cfg.calMode then updateNoiseState cfg st block.noiseState else st

def process (at_ : GpuPfbFft cfg × Side 𝕜) (block : Block 𝕜 N) : GpuPfbFft cfg × Side 𝕜 :=
  let done := stokesAcc cfg (load cfg block at_.1)
  (done.1, executeAll cfg block done.2 at_.2)

def run (blocks : List (Block 𝕜 N)) : GpuPfbFft cfg × Side 𝕜 := blocks.foldl (process cfg) (GpuPfbFft.initial cfg, Side.initial)

end

-- The same observation in one of the two modes.
def inMode (cfg : GpuConfig 𝕜) (spectral : Bool) : GpuConfig 𝕜 := { cfg with spectral }

-- What a path of StokesAcc issues, whichever the mode.
inductive Stage where
  | clearForGap
  | setFirst (slot : Fin numSlots) (timestampNs : Nat)
  | setLast (slot : Fin numSlots) (timestampNs : Nat)
  | accumulate (acc : NoiseState)
  | expose (acc : NoiseState) (slot : Fin numSlots)
  | clear (acc : NoiseState) (sumFirst : Bool)

section

variable (cfg : GpuConfig 𝕜)

def Stage.instrs : Stage → List (GpuInstr cfg)
  | clearForGap =>
      if cfg.spectral then [.launch .d2h (.clearStokes .on), .launch .d2h (.clearStokes .off)]
      else [.launch .d2h (.clearSum .on), .launch .d2h (.clearSum .off)]
  | setFirst slot timestampNs => [.host (.setFirst slot timestampNs)]
  | setLast slot timestampNs => [.host (.setLast slot timestampNs)]
  | accumulate acc => [SpectralLine.accumulate cfg acc]
  | expose acc slot => exposeSlot cfg acc slot
  | clear acc sumFirst =>
      if sumFirst then [.launch .d2h (.clearSum acc), .launch .d2h (.clearStokes acc)] else clearAccumulators cfg acc

def calStages (acc : NoiseState) (slot : Fin numSlots) (first last : Nat) : List Stage :=
  [.accumulate acc, .setFirst slot first, .setLast slot last, .expose acc slot, .clear acc false]

def onStages (st : GpuPfbFft cfg) : List Stage :=
  if cfg.accLen ≤ st.accOnId + 1 then
    calStages .on st.hhead (if st.accOnId = 0 then st.timestampNs else st.accOnFirstTimestampNs) st.timestampNs
  else [.accumulate .on]

def offStages (st : GpuPfbFft cfg) : List Stage :=
  if cfg.accLen ≤ st.accOffId + 1 then
    calStages .off st.hhead (if st.accOffId = 0 then st.timestampNs else st.accOffFirstTimestampNs) st.timestampNs
  else [.accumulate .off]

def plainStages (st : GpuPfbFft cfg) : List Stage :=
  let start : List Stage := if st.accId = 0 then [.setFirst st.hhead st.timestampNs] else []
  if cfg.accLen ≤ st.accId + 1 then
    start ++ [.accumulate .off, .setLast st.hhead st.timestampNs, .expose .off st.hhead, .clear .off true]
  else start ++ [.accumulate .off]

def joinStages (st : GpuPfbFft cfg) : List Stage :=
  if cfg.calMode then
    if isNoiseBlank cfg st st.timestampNs then []
    else if st.noiseState = .on then onStages cfg st
    else offStages cfg st
  else plainStages cfg st

def stages (st : GpuPfbFft cfg) : List Stage :=
  if !st.currentPfbOutputValid then (if st.accumulatorsResetForGap then [] else [.clearForGap])
  else joinStages cfg { st with accumulatorsResetForGap := false }

def stagesInstrs (list : List Stage) : List (GpuInstr cfg) := list.flatMap (Stage.instrs cfg)

omit [Field 𝕜] in
theorem reset_stages (st : GpuPfbFft cfg) :
    (resetForGap cfg st).2 = stagesInstrs cfg (if st.accumulatorsResetForGap then [] else [.clearForGap]) := by
  cases done : st.accumulatorsResetForGap <;> simp [resetForGap, done, stagesInstrs, Stage.instrs]

omit [Field 𝕜] in
theorem cal_stages (acc : NoiseState) (slot : Fin numSlots) (first last : Nat) :
    SpectralLine.accumulate cfg acc :: calPublish cfg acc slot first last = stagesInstrs cfg (calStages acc slot first last) := by
  simp [calPublish, calStages, stagesInstrs, Stage.instrs]

omit [Field 𝕜] in
theorem on_stages (st : GpuPfbFft cfg) : (accumulateOn cfg st).2 = stagesInstrs cfg (onStages cfg st) := by
  by_cases full : cfg.accLen ≤ st.accOnId + 1
  · simp only [accumulateOn, onStages, if_pos full, cal_stages]
  · simp only [accumulateOn, onStages, if_neg full]
    rfl

omit [Field 𝕜] in
theorem off_stages (st : GpuPfbFft cfg) : (accumulateOff cfg st).2 = stagesInstrs cfg (offStages cfg st) := by
  by_cases full : cfg.accLen ≤ st.accOffId + 1
  · simp only [accumulateOff, offStages, if_pos full, cal_stages]
  · simp only [accumulateOff, offStages, if_neg full]
    rfl

omit [Field 𝕜] in
theorem plain_stages (st : GpuPfbFft cfg) : (accumulatePlain cfg st).2 = stagesInstrs cfg (plainStages cfg st) := by
  have start : (if st.accId = 0 then [(.host (.setFirst st.hhead st.timestampNs) : GpuInstr cfg)] else []) =
      stagesInstrs cfg (if st.accId = 0 then [.setFirst st.hhead st.timestampNs] else []) := by
    split <;> rfl
  by_cases full : cfg.accLen ≤ st.accId + 1
  · simp only [accumulatePlain, plainStages, if_pos full, start, stagesInstrs, List.flatMap_append, List.append_assoc]
    rfl
  · simp only [accumulatePlain, plainStages, if_neg full, start, stagesInstrs, List.flatMap_append]
    rfl

omit [Field 𝕜] in
theorem join_stages (st : GpuPfbFft cfg) :
    (if cfg.calMode then
      if isNoiseBlank cfg st st.timestampNs then (st, [])
      else if st.noiseState = .on then accumulateOn cfg st
      else accumulateOff cfg st
    else accumulatePlain cfg st).2 = stagesInstrs cfg (joinStages cfg st) := by
  rw [joinStages]
  split_ifs with cal blank on
  · rfl
  · exact on_stages cfg st
  · exact off_stages cfg st
  · exact plain_stages cfg st

omit [Field 𝕜] in
theorem body_stages (st : GpuPfbFft cfg) : (stokesAccBody cfg st).2 = stagesInstrs cfg (stages cfg st) := by
  rw [stokesAccBody, stages]
  by_cases invalid : (!st.currentPfbOutputValid) = true
  · rw [if_pos invalid, if_pos invalid]
    exact reset_stages cfg st
  · rw [if_neg invalid, if_neg invalid]
    exact join_stages cfg { st with accumulatorsResetForGap := false }

-- The members of the worker do not depend on the mode.
def toMode (spectral : Bool) (st : GpuPfbFft cfg) : GpuPfbFft (inMode cfg spectral) where
  pfbHead := st.pfbHead
  hhead := st.hhead
  timestampNs := st.timestampNs
  noiseState := st.noiseState
  noiseCycleStartNs := st.noiseCycleStartNs
  accId := st.accId
  accOnId := st.accOnId
  accOffId := st.accOffId
  accOnFirstTimestampNs := st.accOnFirstTimestampNs
  accOffFirstTimestampNs := st.accOffFirstTimestampNs
  pfbInvalidBlocksRemaining := st.pfbInvalidBlocksRemaining
  currentPfbOutputValid := st.currentPfbOutputValid
  accumulatorsResetForGap := st.accumulatorsResetForGap
  invalidInputBlocks := st.invalidInputBlocks

omit [Field 𝕜] in
theorem stages_in_mode (spectral : Bool) (st : GpuPfbFft cfg) :
    stages (inMode cfg spectral) (toMode cfg spectral st) = stages cfg st := rfl

omit [Field 𝕜] in
theorem reset_in_mode (spectral : Bool) (st : GpuPfbFft cfg) :
    (resetForGap (inMode cfg spectral) (toMode cfg spectral st)).1 = toMode cfg spectral (resetForGap cfg st).1 := by
  cases done : st.accumulatorsResetForGap <;> simp [resetForGap, toMode, done]

omit [Field 𝕜] in
theorem on_in_mode (spectral : Bool) (st : GpuPfbFft cfg) :
    (accumulateOn (inMode cfg spectral) (toMode cfg spectral st)).1 = toMode cfg spectral (accumulateOn cfg st).1 := by
  simp only [accumulateOn, apply_ite Prod.fst, apply_ite (toMode cfg spectral)]
  rfl

omit [Field 𝕜] in
theorem off_in_mode (spectral : Bool) (st : GpuPfbFft cfg) :
    (accumulateOff (inMode cfg spectral) (toMode cfg spectral st)).1 = toMode cfg spectral (accumulateOff cfg st).1 := by
  simp only [accumulateOff, apply_ite Prod.fst, apply_ite (toMode cfg spectral)]
  rfl

omit [Field 𝕜] in
theorem plain_in_mode (spectral : Bool) (st : GpuPfbFft cfg) :
    (accumulatePlain (inMode cfg spectral) (toMode cfg spectral st)).1 = toMode cfg spectral (accumulatePlain cfg st).1 := by
  simp only [accumulatePlain, apply_ite Prod.fst, apply_ite (toMode cfg spectral)]
  rfl

omit [Field 𝕜] in
theorem body_in_mode (spectral : Bool) (st : GpuPfbFft cfg) :
    (stokesAccBody (inMode cfg spectral) (toMode cfg spectral st)).1 = toMode cfg spectral (stokesAccBody cfg st).1 := by
  simp only [stokesAccBody, apply_ite Prod.fst, apply_ite (toMode cfg spectral), ← reset_in_mode, ← on_in_mode, ← off_in_mode,
    ← plain_in_mode]
  rfl

omit [Field 𝕜] in
theorem load_in_mode {N : Nat} (spectral : Bool) (block : Block 𝕜 N) (st : GpuPfbFft cfg) :
    load (inMode cfg spectral) block (toMode cfg spectral st) = toMode cfg spectral (load cfg block st) := by
  unfold load
  simp only [apply_ite (toMode cfg spectral)]
  rfl

end

-- A spectral result and the continuum result of the same integration.
structure Corresponds (N : Nat) (spectrum continuum : Result 𝕜) : Prop where
  noise : continuum.noiseState = spectrum.noiseState
  first : continuum.firstTimestampNs = spectrum.firstTimestampNs
  last : continuum.lastTimestampNs = spectrum.lastTimestampNs
  power : continuum.sumPower = totalPower N spectrum.data

structure Related (N : Nat) (spectral continuum : Side 𝕜) : Prop where
  sums : ∀ acc, continuum.memory.sumPower acc = totalPower N (spectral.memory.stokes acc)
  slots : continuum.slots = spectral.slots
  published : List.Forall₂ (Corresponds N) spectral.published continuum.published

theorem total_power_overwrite (N : Nat) (source target : Nat → Float4 𝕜) :
    totalPower N (overwrite N source target) = totalPower N source := by
  refine Finset.sum_congr rfl fun k member => ?_
  rw [overwrite, if_pos (Finset.mem_range.mp member)]

theorem total_power_zero (N : Nat) (target : Nat → Float4 𝕜) : totalPower N (overwrite N (fun _ => 0) target) = 0 := by
  rw [total_power_overwrite]
  simp [totalPower]

section

variable {N : Nat} (cfg : GpuConfig 𝕜) (block : Block 𝕜 N)

theorem sums_updated (spectral continuum : Side 𝕜) (acc : NoiseState) (stokes : Nat → Float4 𝕜) (sum : 𝕜)
    (same : sum = totalPower N stokes) (related : Related N spectral continuum) (c : NoiseState) :
    Function.update continuum.memory.sumPower acc sum c = totalPower N (Function.update spectral.memory.stokes acc stokes c) := by
  by_cases here : c = acc
  · subst here
    rw [Function.update_self, Function.update_self, same]
  · rw [Function.update_of_ne here, Function.update_of_ne here, related.sums c]

theorem clear_gap_related (spectral continuum : Side 𝕜) (related : Related N spectral continuum) :
    Related N (executeAll (inMode cfg true) block (Stage.clearForGap.instrs (inMode cfg true)) spectral)
      (executeAll (inMode cfg false) block (Stage.clearForGap.instrs (inMode cfg false)) continuum) := by
  refine ⟨fun c => ?_, related.slots, related.published⟩
  cases c with
  | on => exact (total_power_zero N _).symm
  | off => exact (total_power_zero N _).symm

theorem accumulate_related (acc : NoiseState) (spectral continuum : Side 𝕜) (related : Related N spectral continuum) :
    Related N (executeAll (inMode cfg true) block ((Stage.accumulate acc).instrs (inMode cfg true)) spectral)
      (executeAll (inMode cfg false) block ((Stage.accumulate acc).instrs (inMode cfg false)) continuum) := by
  refine ⟨sums_updated spectral continuum acc _ _ ?_ related, related.slots, related.published⟩
  rw [related.sums acc, total_power_accumulate]

theorem clear_related (acc : NoiseState) (sumFirst : Bool) (spectral continuum : Side 𝕜) (related : Related N spectral continuum) :
    Related N (executeAll (inMode cfg true) block ((Stage.clear acc sumFirst).instrs (inMode cfg true)) spectral)
      (executeAll (inMode cfg false) block ((Stage.clear acc sumFirst).instrs (inMode cfg false)) continuum) := by
  cases sumFirst with
  | true =>
      exact ⟨sums_updated spectral continuum acc _ 0 (total_power_zero N _).symm related, related.slots, related.published⟩
  | false =>
      exact ⟨sums_updated spectral continuum acc _ 0 (total_power_zero N _).symm related, related.slots, related.published⟩

theorem expose_related (acc : NoiseState) (slot : Fin numSlots) (spectral continuum : Side 𝕜)
    (related : Related N spectral continuum) :
    Related N (executeAll (inMode cfg true) block ((Stage.expose acc slot).instrs (inMode cfg true)) spectral)
      (executeAll (inMode cfg false) block ((Stage.expose acc slot).instrs (inMode cfg false)) continuum) := by
  have marked : storeSlot continuum.slots (.setNoise slot acc) = storeSlot spectral.slots (.setNoise slot acc) := by
    rw [related.slots]
  refine ⟨related.sums, marked, List.rel_append related.published (.cons ⟨?_, ?_, ?_, ?_⟩ .nil)⟩
  · exact congrArg (fun slots => (slots slot).noiseState) marked
  · exact congrArg (fun slots => (slots slot).firstTimestampNs) marked
  · exact congrArg (fun slots => (slots slot).lastTimestampNs) marked
  · have copied : totalPower N (Function.update spectral.memory.slotData slot
        (overwrite N (spectral.memory.stokes acc) (spectral.memory.slotData slot)) slot) = totalPower N (spectral.memory.stokes acc) := by
      rw [Function.update_self, total_power_overwrite]
    have summed : Function.update continuum.memory.slotSum slot (continuum.memory.sumPower acc) slot = continuum.memory.sumPower acc :=
      Function.update_self ..
    exact summed.trans ((related.sums acc).trans copied.symm)

theorem stage_related (stage : Stage) (spectral continuum : Side 𝕜) (related : Related N spectral continuum) :
    Related N (executeAll (inMode cfg true) block (stage.instrs (inMode cfg true)) spectral)
      (executeAll (inMode cfg false) block (stage.instrs (inMode cfg false)) continuum) := by
  cases stage with
  | clearForGap => exact clear_gap_related cfg block spectral continuum related
  | setFirst slot timestampNs =>
      exact ⟨related.sums, congrArg (fun slots => storeSlot slots (.setFirst slot timestampNs)) related.slots, related.published⟩
  | setLast slot timestampNs =>
      exact ⟨related.sums, congrArg (fun slots => storeSlot slots (.setLast slot timestampNs)) related.slots, related.published⟩
  | accumulate acc => exact accumulate_related cfg block acc spectral continuum related
  | expose acc slot => exact expose_related cfg block acc slot spectral continuum related
  | clear acc sumFirst => exact clear_related cfg block acc sumFirst spectral continuum related

theorem stages_related (list : List Stage) (spectral continuum : Side 𝕜) (related : Related N spectral continuum) :
    Related N (executeAll (inMode cfg true) block (stagesInstrs (inMode cfg true) list) spectral)
      (executeAll (inMode cfg false) block (stagesInstrs (inMode cfg false) list) continuum) := by
  induction list generalizing spectral continuum with
  | nil => exact related
  | cons stage rest ih =>
      simp only [stagesInstrs, List.flatMap_cons, executeAll, List.foldl_append]
      exact ih _ _ (stage_related cfg block stage spectral continuum related)

theorem stokes_acc_instrs (st : GpuPfbFft cfg) (side : Side 𝕜) :
    executeAll cfg block (stokesAcc cfg st).2 side = executeAll cfg block (stagesInstrs cfg (stages cfg st)) side := by
  rw [← body_stages]
  rfl

theorem process_in_mode (spectral : Bool) (st : GpuPfbFft cfg) (side : Side 𝕜) :
    process (inMode cfg spectral) (toMode cfg spectral st, side) block =
      (toMode cfg spectral (stokesAcc cfg (load cfg block st)).1,
        executeAll (inMode cfg spectral) block (stagesInstrs (inMode cfg spectral) (stages cfg (load cfg block st))) side) := by
  rw [process, load_in_mode, stokes_acc_instrs, stages_in_mode]
  exact congrArg (·, _) (body_in_mode cfg spectral (load cfg block st))

theorem runs_related (blocks : List (Block 𝕜 N)) :
    ∃ st : GpuPfbFft cfg, (run (inMode cfg true) blocks).1 = toMode cfg true st ∧ (run (inMode cfg false) blocks).1 = toMode cfg false st ∧
      Related N (run (inMode cfg true) blocks).2 (run (inMode cfg false) blocks).2 := by
  induction blocks using List.reverseRecOn with
  | nil =>
      refine ⟨GpuPfbFft.initial cfg, rfl, rfl, fun acc => ?_, rfl, .nil⟩
      simp [run, Side.initial, totalPower]
  | append_singleton past block ih =>
      obtain ⟨st, first, second, related⟩ := ih
      have spectral : run (inMode cfg true) (past ++ [block]) =
          process (inMode cfg true) (toMode cfg true st, (run (inMode cfg true) past).2) block := by
        rw [← first, run, List.foldl_append]
        rfl
      have continuum : run (inMode cfg false) (past ++ [block]) =
          process (inMode cfg false) (toMode cfg false st, (run (inMode cfg false) past).2) block := by
        rw [← second, run, List.foldl_append]
        rfl
      rw [spectral, continuum, process_in_mode, process_in_mode]
      exact ⟨_, rfl, rfl, stages_related cfg block _ _ _ related⟩

theorem modes_agree (blocks : List (Block 𝕜 N)) :
    List.Forall₂ (Corresponds N) (run (inMode cfg true) blocks).2.published (run (inMode cfg false) blocks).2.published := by
  obtain ⟨_, _, _, related⟩ := runs_related cfg blocks
  exact related.published

end

-- The kernels of the worker are these at its own length.
section

variable (cfg : GpuConfig 𝕜)

theorem gpu_continuum_accumulate (A B : Samples cfg) (order : LaunchOrder cfg.nfft) (sumPower : 𝕜) :
    SpectralLine.continuumPowerAccumulate cfg A B sumPower =
      continuumPowerAccumulate cfg.nfft (Pfb.extend ⟨0, 0⟩ A) (Pfb.extend ⟨0, 0⟩ B) order sumPower := by
  rw [continuum_power_sum, SpectralLine.continuumPowerAccumulate, continuumOf, Finset.sum_range]
  congr 1
  refine Finset.sum_congr rfl fun idx _ => ?_
  rw [power, Pfb.extend_fin, Pfb.extend_fin]

theorem gpu_stokes_accumulate (A B : Samples cfg) (sumStokes : Stokes cfg) (k : Fin cfg.nfft) :
    SpectralLine.stokesIQUVAccumulate cfg A B sumStokes k =
      stokesIQUVAccumulate cfg.nfft (Pfb.extend ⟨0, 0⟩ A) (Pfb.extend ⟨0, 0⟩ B) (Pfb.extend 0 sumStokes) k.val := by
  rw [stokes_accumulate_at _ _ _ _ _ k.isLt, Pfb.extend_fin, stokesAt, Pfb.extend_fin, Pfb.extend_fin]
  rfl

end

end Modes

end SpectralLine
