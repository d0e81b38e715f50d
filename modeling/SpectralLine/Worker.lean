import SpectralLine.Gpu
import SpectralLine.Lib.Run

set_option autoImplicit false

namespace SpectralLine

-- Why a call does not return: an empty input queue, or an exception.
inductive Halt where
  | waiting
  | thrown (message : String)
deriving DecidableEq

section

variable {𝕜 : Type} (cfg : GpuConfig 𝕜)

-- The members of GpuPfbFft that change after construction.
structure GpuPfbFft where
  pfbHead : Fin cfg.ringsize
  hhead : Fin numSlots
  timestampNs : Nat
  noiseState : NoiseState
  noiseCycleStartNs : Nat
  accId : Nat
  accOnId : Nat
  accOffId : Nat
  accOnFirstTimestampNs : Nat
  accOffFirstTimestampNs : Nat
  pfbInvalidBlocksRemaining : Nat
  currentPfbOutputValid : Bool
  accumulatorsResetForGap : Bool
  invalidInputBlocks : Nat

def GpuPfbFft.initial : GpuPfbFft cfg where
  pfbHead := ⟨0, ringsize_pos cfg⟩
  hhead := ⟨0, by decide⟩
  timestampNs := 0
  noiseState := .off
  noiseCycleStartNs := 0
  accId := 0
  accOnId := 0
  accOffId := 0
  accOnFirstTimestampNs := 0
  accOffFirstTimestampNs := 0
  pfbInvalidBlocksRemaining := numTaps - 1
  currentPfbOutputValid := false
  accumulatorsResetForGap := false
  invalidInputBlocks := 0

-- uint64_t subtraction.
def sub64 (a b : Nat) : Nat := (a % 2 ^ 64 + (2 ^ 64 - b % 2 ^ 64)) % 2 ^ 64

def noisePeriodNs (noise : NoiseSourceConfig) : Nat := ⌊noise.periodMs * 1000000⌋.toNat

def noiseOnNs (noise : NoiseSourceConfig) : Nat := ⌊(noisePeriodNs noise : ℚ) * noise.dutyCycle / 100⌋.toNat

def noiseBlankNs (noise : NoiseSourceConfig) : Nat := ⌊noise.transitionBlankMs * 1000000⌋.toNat

def updateNoiseState (st : GpuPfbFft cfg) (newState : NoiseState) : GpuPfbFft cfg :=
  let start :=
    if newState ≠ st.noiseState then
      if st.noiseCycleStartNs = 0 then
        if newState = .on then st.timestampNs else sub64 st.timestampNs (noiseOnNs cfg.noiseSource)
      else if newState = .on then st.timestampNs
      else st.noiseCycleStartNs
    else st.noiseCycleStartNs
  { st with noiseCycleStartNs := start, noiseState := newState }

def isNoiseBlank (st : GpuPfbFft cfg) (timestampNs : Nat) : Bool :=
  if st.noiseCycleStartNs = 0 then false
  else
    let periodNs := noisePeriodNs cfg.noiseSource
    let onNs := noiseOnNs cfg.noiseSource
    let phase := sub64 timestampNs st.noiseCycleStartNs % periodNs
    let distOn := min phase (periodNs - phase)
    let distOff := if onNs ≤ phase then phase - onNs else onNs - phase
    decide (min distOn distOff ≤ noiseBlankNs cfg.noiseSource)

-- The pair of batches a call works on; the queues hold what is left.
structure Aligned where
  batchA : PacketBatch cfg.batchsize
  batchB : PacketBatch cfg.batchsize
  gap : Bool
  queueA : List (PacketBatch cfg.batchsize)
  queueB : List (PacketBatch cfg.batchsize)

def alignBatches (pair : Aligned cfg) : Except Halt (Aligned cfg) :=
  if pair.batchA.batchId = pair.batchB.batchId then .ok pair
  else if pair.batchA.batchId < pair.batchB.batchId then
    match _left : pair.queueA with
    | [] => .error .waiting
    | batch :: rest => alignBatches { pair with batchA := batch, queueA := rest, gap := true }
  else
    match _left : pair.queueB with
    | [] => .error .waiting
    | batch :: rest => alignBatches { pair with batchB := batch, queueB := rest, gap := true }
termination_by pair.queueA.length + pair.queueB.length
decreasing_by
  all_goals
    simp only [_left, List.length_cons]
    omega

def dequeueAligned (queueA queueB : List (PacketBatch cfg.batchsize)) : Except Halt (Aligned cfg) :=
  match queueA, queueB with
  | batchA :: queueA, batchB :: queueB => alignBatches cfg ⟨batchA, batchB, false, queueA, queueB⟩
  | _, _ => .error .waiting

def Aligned.inputValid {cfg : GpuConfig 𝕜} (pair : Aligned cfg) : Bool :=
  !pair.gap && pair.batchA.valid && pair.batchB.valid

theorem byte_packet (k : Fin (2 * cfg.nfft)) : k.val / VDIF.payloadLen < cfg.batchsize := by
  apply Nat.div_lt_of_lt_mul
  have inside := k.isLt
  simp only [GpuConfig.nfft, VDIF.payloadLen] at *
  omega

-- The bytes of buffer[0 .. count) in order.
def batchBytes (batch : PacketBatch cfg.batchsize) : Raw cfg := fun k =>
  (batch.buffer ⟨k.val / VDIF.payloadLen, byte_packet cfg k⟩).payload.getD (k.val % VDIF.payloadLen) 0

-- An invalid pair is overwritten with zeros before the copy.
def inputBytes (pair : Aligned cfg) (pol : Pol) : Raw cfg :=
  if pair.inputValid then
    match pol with
    | .A => batchBytes cfg pair.batchA
    | .B => batchBytes cfg pair.batchB
  else fun _ => 0

def firstSlotOf : Fin cfg.batchsize := ⟨0, cfg.batchsizePos⟩

def blockTimestampNs (batch : PacketBatch cfg.batchsize) : Except String Nat :=
  let header := batch.hdrs (firstSlotOf cfg)
  vdifToTimestampNs (header.getReferenceEpoch.setWidth 8) header.getSecondsFromEpoch header.getFrameNumber

-- The receiver stores 0 or 1.
def noiseStateOf (state : Byte) : NoiseState := if state = 0 then .off else .on

-- The host side of a call after the pair is found.
def takePair (st : GpuPfbFft cfg) (pair : Aligned cfg) : Except Halt (GpuPfbFft cfg) :=
  match blockTimestampNs cfg pair.batchA with
  | .error message => .error (.thrown message)
  | .ok timestampNs =>
      let st := { st with
        timestampNs
        invalidInputBlocks := if pair.inputValid then st.invalidInputBlocks else st.invalidInputBlocks + 1 }
      let st := if cfg.calMode then updateNoiseState cfg st (noiseStateOf (pair.batchA.noiseState (firstSlotOf cfg))) else st
      let remaining := if pair.inputValid then st.pfbInvalidBlocksRemaining else numTaps
      .ok { st with
        currentPfbOutputValid := remaining = 0
        pfbInvalidBlocksRemaining := if remaining ≠ 0 then remaining - 1 else remaining }

def copyInstrs (pair : Aligned cfg) : List (GpuInstr cfg) :=
  [.launch (.h2d .A) (.copyToDevice .A (inputBytes cfg pair .A)),
    .record (.h2dDone .A) (.h2d .A),
    .launch (.h2d .B) (.copyToDevice .B (inputBytes cfg pair .B)),
    .record (.h2dDone .B) (.h2d .B),
    .synchronize (.h2dDone .A),
    .synchronize (.h2dDone .B)]

def nextHead (head : Fin cfg.ringsize) : Fin cfg.ringsize :=
  ⟨(head.val + cfg.nfft) % cfg.ringsize, Nat.mod_lt _ (ringsize_pos cfg)⟩

def submitPfbFft (st : GpuPfbFft cfg) : GpuPfbFft cfg × List (GpuInstr cfg) :=
  let head := nextHead cfg st.pfbHead
  ({ st with pfbHead := head },
    [.wait (.conv .A) (.h2dDone .A),
      .wait (.conv .B) (.h2dDone .B),
      .launch (.conv .A) (.toRing .A st.pfbHead),
      .record (.convDone .A) (.conv .A),
      .launch (.conv .B) (.toRing .B st.pfbHead),
      .record (.convDone .B) (.conv .B),
      .wait (.pfb .A) (.convDone .A),
      .launch (.pfb .A) (.pfbSum .A head),
      .wait (.pfb .B) (.convDone .B),
      .launch (.pfb .B) (.pfbSum .B head),
      .launch (.pfb .A) (.fft .A),
      .launch (.pfb .A) (.fftshift .A),
      .record (.pfbDone .A) (.pfb .A),
      .launch (.pfb .B) (.fft .B),
      .launch (.pfb .B) (.fftshift .B),
      .record (.pfbDone .B) (.pfb .B)])

def accumulate (acc : NoiseState) : GpuInstr cfg :=
  .launch .d2h (if cfg.spectral then .stokesAccumulate acc else .continuumAccumulate acc)

def clearAccumulators (acc : NoiseState) : List (GpuInstr cfg) :=
  [.launch .d2h (.clearStokes acc), .launch .d2h (.clearSum acc)]

-- The common middle of the three publish paths.
def exposeSlot (acc : NoiseState) (slot : Fin numSlots) : List (GpuInstr cfg) :=
  [.launch .d2h (if cfg.spectral then .copyStokes acc slot else .copySum acc slot),
    .host (.setNoise slot acc),
    .record (.slotDone slot) .d2h,
    .synchronize (.slotDone slot),
    .host (.publish slot)]

def nextSlot (slot : Fin numSlots) : Fin numSlots := ⟨(slot.val + 1) % numSlots, Nat.mod_lt _ (by decide)⟩

def resetForGap (st : GpuPfbFft cfg) : GpuPfbFft cfg × List (GpuInstr cfg) :=
  if st.accumulatorsResetForGap then (st, [])
  else
    ({ st with
      accId := 0
      accOnId := 0
      accOffId := 0
      accOnFirstTimestampNs := 0
      accOffFirstTimestampNs := 0
      accumulatorsResetForGap := true },
      if cfg.spectral then [.launch .d2h (.clearStokes .on), .launch .d2h (.clearStokes .off)]
      else [.launch .d2h (.clearSum .on), .launch .d2h (.clearSum .off)])

-- One noise state of cal_mode: its counter and first timestamp after this
-- block, and what is issued when the integration is complete.
def calPublish (acc : NoiseState) (slot : Fin numSlots) (first last : Nat) : List (GpuInstr cfg) :=
  [.host (.setFirst slot first), .host (.setLast slot last)] ++ exposeSlot cfg acc slot ++ clearAccumulators cfg acc

def accumulateOn (st : GpuPfbFft cfg) : GpuPfbFft cfg × List (GpuInstr cfg) :=
  let first := if st.accOnId = 0 then st.timestampNs else st.accOnFirstTimestampNs
  if cfg.accLen ≤ st.accOnId + 1 then
    ({ st with accOnId := 0, accOnFirstTimestampNs := 0, hhead := nextSlot st.hhead },
      accumulate cfg .on :: calPublish cfg .on st.hhead first st.timestampNs)
  else ({ st with accOnId := st.accOnId + 1, accOnFirstTimestampNs := first }, [accumulate cfg .on])

def accumulateOff (st : GpuPfbFft cfg) : GpuPfbFft cfg × List (GpuInstr cfg) :=
  let first := if st.accOffId = 0 then st.timestampNs else st.accOffFirstTimestampNs
  if cfg.accLen ≤ st.accOffId + 1 then
    ({ st with accOffId := 0, accOffFirstTimestampNs := 0, hhead := nextSlot st.hhead },
      accumulate cfg .off :: calPublish cfg .off st.hhead first st.timestampNs)
  else ({ st with accOffId := st.accOffId + 1, accOffFirstTimestampNs := first }, [accumulate cfg .off])

-- Without cal_mode the slot's first timestamp is stored when the integration
-- starts, and the accumulators are cleared in the other order.
def accumulatePlain (st : GpuPfbFft cfg) : GpuPfbFft cfg × List (GpuInstr cfg) :=
  let start : List (GpuInstr cfg) := if st.accId = 0 then [.host (.setFirst st.hhead st.timestampNs)] else []
  if cfg.accLen ≤ st.accId + 1 then
    ({ st with accId := 0, hhead := nextSlot st.hhead },
      start ++ [accumulate cfg .off, .host (.setLast st.hhead st.timestampNs)] ++ exposeSlot cfg .off st.hhead ++
        [.launch .d2h (.clearSum .off), .launch .d2h (.clearStokes .off)])
  else ({ st with accId := st.accId + 1 }, start ++ [accumulate cfg .off])

-- StokesAcc after its two waits.
def stokesAccBody (st : GpuPfbFft cfg) : GpuPfbFft cfg × List (GpuInstr cfg) :=
  if !st.currentPfbOutputValid then resetForGap cfg st
  else
    let st := { st with accumulatorsResetForGap := false }
    if cfg.calMode then
      if isNoiseBlank cfg st st.timestampNs then (st, [])
      else if st.noiseState = .on then accumulateOn cfg st
      else accumulateOff cfg st
    else accumulatePlain cfg st

def stokesAcc (st : GpuPfbFft cfg) : GpuPfbFft cfg × List (GpuInstr cfg) :=
  let (st, instrs) := stokesAccBody cfg st
  (st, [.wait .d2h (.pfbDone .A), .wait .d2h (.pfbDone .B)] ++ instrs)

-- One turn of the loop of subband_thread: the pair, the state StokesAcc starts
-- from, the state it leaves and everything issued.
structure WorkerTurn where
  pair : Aligned cfg
  ready : GpuPfbFft cfg
  after : GpuPfbFft cfg
  instrs : List (GpuInstr cfg)

def subbandTurn (st : GpuPfbFft cfg) (queueA queueB : List (PacketBatch cfg.batchsize)) : Except Halt (WorkerTurn cfg) := do
  let pair ← dequeueAligned cfg queueA queueB
  let taken ← takePair cfg st pair
  let (ready, submitInstrs) := submitPfbFft cfg taken
  let (after, accInstrs) := stokesAcc cfg ready
  return ⟨pair, ready, after, copyInstrs cfg pair ++ submitInstrs ++ accInstrs⟩

theorem align_shrinks (pair last : Aligned cfg) (aligned : alignBatches cfg pair = .ok last) :
    last.queueA.length ≤ pair.queueA.length := by
  fun_induction alignBatches cfg pair with
  | case1 pair same =>
      cases aligned
      exact Nat.le_refl _
  | case2 pair differ behind left => cases aligned
  | case3 pair differ behind batch rest left ih =>
      have inner := ih aligned
      rw [left, List.length_cons]
      exact inner.trans (Nat.le_succ _)
  | case4 pair differ ahead left => cases aligned
  | case5 pair differ ahead batch rest left ih => exact ih aligned

theorem dequeue_shrinks (queueA queueB : List (PacketBatch cfg.batchsize)) (pair : Aligned cfg)
    (aligned : dequeueAligned cfg queueA queueB = .ok pair) : pair.queueA.length < queueA.length := by
  cases queueA with
  | nil => cases aligned
  | cons batchA queueA =>
      cases queueB with
      | nil => cases aligned
      | cons batchB queueB =>
          have inner := align_shrinks cfg _ pair aligned
          exact Nat.lt_succ_of_le inner

theorem turn_cases (st : GpuPfbFft cfg) (queueA queueB : List (PacketBatch cfg.batchsize)) (turn : WorkerTurn cfg)
    (taken : subbandTurn cfg st queueA queueB = .ok turn) :
    ∃ state, dequeueAligned cfg queueA queueB = .ok turn.pair ∧ takePair cfg st turn.pair = .ok state ∧
      turn.ready = (submitPfbFft cfg state).1 ∧ turn.after = (stokesAcc cfg turn.ready).1 ∧
      turn.instrs = copyInstrs cfg turn.pair ++ (submitPfbFft cfg state).2 ++ (stokesAcc cfg turn.ready).2 := by
  obtain ⟨pair, aligned, rest⟩ := Run.bind_ok _ _ _ taken
  obtain ⟨state, done, last⟩ := Run.bind_ok _ _ _ rest
  cases last
  exact ⟨state, aligned, done, rfl, rfl, rfl⟩

-- The loop until a queue runs dry (or an exception ends the thread).
def subbandThread (st : GpuPfbFft cfg) (queueA queueB : List (PacketBatch cfg.batchsize)) : List (WorkerTurn cfg) × Halt :=
  match _step : subbandTurn cfg st queueA queueB with
  | .error halt => ([], halt)
  | .ok turn =>
      let rest := subbandThread turn.after turn.pair.queueA turn.pair.queueB
      (turn :: rest.1, rest.2)
termination_by queueA.length
decreasing_by
  obtain ⟨_, aligned, _⟩ := turn_cases cfg st queueA queueB turn _step
  exact dequeue_shrinks cfg queueA queueB turn.pair aligned

end

end SpectralLine
