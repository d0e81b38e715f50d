import SpectralLine.Results

set_option autoImplicit false

namespace SpectralLine

open Streams

section

variable {𝕜 : Type} (cfg : GpuConfig 𝕜)

def accKind (st : GpuPfbFft cfg) : Ledger.Kind NoiseState :=
  if !st.currentPfbOutputValid then .reset
  else if cfg.calMode then (if isNoiseBlank cfg st st.timestampNs then .skip else .add st.noiseState)
  else .add .off

-- The counter and first timestamp that go with an accumulator.
def accCount (st : GpuPfbFft cfg) : NoiseState → Nat
  | .on => st.accOnId
  | .off => if cfg.calMode then st.accOffId else st.accId

def accFirst (st : GpuPfbFft cfg) (r : ResultSide cfg) : NoiseState → Nat
  | .on => st.accOnFirstTimestampNs
  | .off => if cfg.calMode then st.accOffFirstTimestampNs else (r.slots st.hhead).firstTimestampNs

def firstOf (st : GpuPfbFft cfg) (r : ResultSide cfg) (c : NoiseState) : Nat :=
  if accCount cfg st c = 0 then st.timestampNs else accFirst cfg st r c

variable [Field 𝕜]

structure Emptied (st : GpuPfbFft cfg) (r : ResultSide cfg) (c : NoiseState) : Prop where
  count : accCount cfg st c = 0
  stokes : cfg.spectral = true → r.memory (.stokes c) = fun _ => (0 : Float4 𝕜)
  power : cfg.spectral = false → r.memory (.sumPower c) = (0 : 𝕜)

structure Untouched (st : GpuPfbFft cfg) (r : ResultSide cfg) (after : GpuPfbFft cfg) (next : ResultSide cfg)
    (c : NoiseState) : Prop where
  count : accCount cfg after c = accCount cfg st c
  first : accFirst cfg after next c = accFirst cfg st r c
  stokes : next.memory (.stokes c) = r.memory (.stokes c)
  power : next.memory (.sumPower c) = r.memory (.sumPower c)

def stokesJoined (r : ResultSide cfg) (c : NoiseState) : Stokes cfg :=
  stokesIQUVAccumulate cfg (r.memory (.ffted .A)) (r.memory (.ffted .B)) (r.memory (.stokes c))

def powerJoined (r : ResultSide cfg) (c : NoiseState) : 𝕜 :=
  continuumPowerAccumulate cfg (r.memory (.ffted .A)) (r.memory (.ffted .B)) (r.memory (.sumPower c))

structure Grown (st : GpuPfbFft cfg) (r : ResultSide cfg) (after : GpuPfbFft cfg) (next : ResultSide cfg)
    (c : NoiseState) : Prop where
  count : accCount cfg after c = accCount cfg st c + 1
  first : accFirst cfg after next c = firstOf cfg st r c
  stokes : cfg.spectral = true → next.memory (.stokes c) = stokesJoined cfg r c
  power : cfg.spectral = false → next.memory (.sumPower c) = powerJoined cfg r c

structure Released (st : GpuPfbFft cfg) (r : ResultSide cfg) (c : NoiseState) (result : IntegrationResult cfg) : Prop where
  slot : result.slot = st.hhead
  noise : result.noiseState = c
  first : result.firstTimestampNs = firstOf cfg st r c
  last : result.lastTimestampNs = st.timestampNs
  stokes : cfg.spectral = true → result.data = stokesJoined cfg r c
  power : cfg.spectral = false → result.sumPower = powerJoined cfg r c

def accAfter (st : GpuPfbFft cfg) : GpuPfbFft cfg := (stokesAcc cfg st).1

def accExec (st : GpuPfbFft cfg) (r : ResultSide cfg) : ResultSide cfg := executeAll cfg (stokesAcc cfg st).2 r

theorem acc_exec_body (st : GpuPfbFft cfg) (r : ResultSide cfg) :
    accExec cfg st r = executeAll cfg (stokesAccBody cfg st).2 r := rfl

omit [Field 𝕜] in
theorem body_reset (st : GpuPfbFft cfg) (kind : accKind cfg st = .reset) : stokesAccBody cfg st = resetForGap cfg st := by
  have invalid : st.currentPfbOutputValid = false := by
    unfold accKind at kind
    split_ifs at kind with invalid
    simpa using invalid
  simp [stokesAccBody, invalid]

omit [Field 𝕜] in
theorem body_skip (st : GpuPfbFft cfg) (kind : accKind cfg st = .skip) :
    stokesAccBody cfg st = ({ st with accumulatorsResetForGap := false }, []) := by
  unfold accKind at kind
  split_ifs at kind with invalid cal blank
  rw [stokesAccBody, if_neg invalid]
  exact (if_pos cal).trans (if_pos blank)

theorem acc_reset (st : GpuPfbFft cfg) (r : ResultSide cfg) (kind : accKind cfg st = .reset) :
    (accAfter cfg st).accumulatorsResetForGap = true ∧ (accExec cfg st r).published = r.published ∧
    (st.accumulatorsResetForGap = false → ∀ c, Emptied cfg (accAfter cfg st) (accExec cfg st r) c) ∧
    (st.accumulatorsResetForGap = true → ∀ c, Untouched cfg st r (accAfter cfg st) (accExec cfg st r) c) := by
  have body := body_reset cfg st kind
  have after : accAfter cfg st = (resetForGap cfg st).1 := by rw [← body]; rfl
  rw [after, acc_exec_body, body]
  cases done : st.accumulatorsResetForGap with
  | true =>
      rw [resetForGap, if_pos done]
      exact ⟨done, rfl, by simp, fun _ c => ⟨rfl, rfl, rfl, rfl⟩⟩
  | false =>
      simp only [resetForGap, done, Bool.false_eq_true, if_false]
      refine ⟨trivial, ?_, ?_, by simp⟩
      · cases cfg.spectral with
        | true => rfl
        | false => rfl
      · intro _ c
        constructor
        · cases c <;> simp [accCount]
        · intro mode
          rw [mode]
          cases c <;> rfl
        · intro mode
          rw [mode]
          cases c <;> rfl

theorem acc_skip (st : GpuPfbFft cfg) (r : ResultSide cfg) (kind : accKind cfg st = .skip) :
    (accAfter cfg st).accumulatorsResetForGap = false ∧ (accExec cfg st r).published = r.published ∧
    ∀ c, Untouched cfg st r (accAfter cfg st) (accExec cfg st r) c := by
  have body := body_skip cfg st kind
  have after : accAfter cfg st = { st with accumulatorsResetForGap := false } := congrArg Prod.fst body
  rw [after, acc_exec_body, body]
  refine ⟨rfl, rfl, fun c => ?_⟩
  cases c <;> exact ⟨rfl, rfl, rfl, rfl⟩

-- The path StokesAcc takes for a block that joins.
def joinPath (st : GpuPfbFft cfg) (c : NoiseState) : GpuPfbFft cfg × List (GpuInstr cfg) :=
  if cfg.calMode then (if c = .on then accumulateOn cfg st else accumulateOff cfg st) else accumulatePlain cfg st

omit [Field 𝕜] in
theorem body_add (st : GpuPfbFft cfg) (c : NoiseState) (kind : accKind cfg st = .add c) :
    stokesAccBody cfg st = joinPath cfg { st with accumulatorsResetForGap := false } c := by
  unfold accKind at kind
  split_ifs at kind with invalid cal blank
  · cases kind
    rw [stokesAccBody, if_neg invalid, joinPath, if_pos cal, if_pos cal]
    exact if_neg blank
  · rw [stokesAccBody, if_neg invalid, joinPath, if_neg cal, if_neg cal]

omit [Field 𝕜] in
theorem plain_off (st : GpuPfbFft cfg) (c : NoiseState) (kind : accKind cfg st = .add c) (plain : cfg.calMode = false) :
    c = .off := by
  unfold accKind at kind
  split_ifs at kind with invalid cal blank
  · rw [plain] at cal
    contradiction
  · exact (Ledger.Kind.add.inj kind).symm

-- One launch adds the block to its accumulator and touches nothing else of the results.
structure Joined (r next : ResultSide cfg) (acc : NoiseState) : Prop where
  slots : next.slots = r.slots
  published : next.published = r.published
  stokes : cfg.spectral = true → next.memory (.stokes acc) = stokesJoined cfg r acc
  power : cfg.spectral = false → next.memory (.sumPower acc) = powerJoined cfg r acc
  others : ∀ c, c ≠ acc → next.memory (.stokes c) = r.memory (.stokes c) ∧
    next.memory (.sumPower c) = r.memory (.sumPower c)

theorem execute_accumulate (acc : NoiseState) (r : ResultSide cfg) : Joined cfg r (execute cfg r (accumulate cfg acc)) acc := by
  rw [accumulate, execute_launch]
  refine ⟨rfl, rfl, ?_, ?_, ?_⟩
  · intro mode
    rw [mode]
    cases acc <;> rfl
  · intro mode
    rw [mode]
    cases acc <;> rfl
  · intro c other
    cases mode : cfg.spectral <;> cases c <;> cases acc <;> first | exact absurd rfl other | exact ⟨rfl, rfl⟩

-- The slot that is exposed after the launch holds the sums with the block.
theorem joined_released (st : GpuPfbFft cfg) (r next : ResultSide cfg) (acc : NoiseState) (first : Nat)
    (begins : first = firstOf cfg st r acc) (stokes : cfg.spectral = true → next.memory (.stokes acc) = stokesJoined cfg r acc)
    (power : cfg.spectral = false → next.memory (.sumPower acc) = powerJoined cfg r acc) :
    Released cfg st r acc (exposed cfg acc st.hhead next first st.timestampNs) := by
  refine ⟨rfl, rfl, begins, rfl, ?_, ?_⟩
  · intro mode
    simp only [exposed, mode, if_true]
    exact stokes mode
  · intro mode
    simp only [exposed, mode, Bool.false_eq_true, if_false]
    exact power mode

-- Without cal_mode the slot's first timestamp is right once the block joined.
theorem plain_start (st : GpuPfbFft cfg) (r : ResultSide cfg) (plain : cfg.calMode = false) :
    executeAll cfg (if st.accId = 0 then [(.host (.setFirst st.hhead st.timestampNs) : GpuInstr cfg)] else []) r =
      { r with
        slots := Function.update r.slots st.hhead { r.slots st.hhead with firstTimestampNs := firstOf cfg st r .off } } := by
  by_cases start : st.accId = 0
  · rw [if_pos start]
    simp [execute, storeSlot, firstOf, accCount, plain, start]
  · rw [if_neg start]
    simp [firstOf, accCount, accFirst, plain, start]

theorem acc_grow (st : GpuPfbFft cfg) (r : ResultSide cfg) (c : NoiseState) (kind : accKind cfg st = .add c)
    (room : ¬ cfg.accLen ≤ accCount cfg st c + 1) :
    (accAfter cfg st).accumulatorsResetForGap = false ∧ (accExec cfg st r).published = r.published ∧
    Grown cfg st r (accAfter cfg st) (accExec cfg st r) c ∧
    ∀ d, d ≠ c → Untouched cfg st r (accAfter cfg st) (accExec cfg st r) d := by
  have body := body_add cfg st c kind
  have after : accAfter cfg st = (stokesAccBody cfg st).1 := rfl
  rw [after, acc_exec_body, body]
  cases cal : cfg.calMode with
  | true =>
      cases c with
      | on =>
          have short : ¬ cfg.accLen ≤ st.accOnId + 1 := room
          have joined := execute_accumulate cfg .on r
          simp only [joinPath, cal, if_true, accumulateOn, if_neg short, execute_all_cons, execute_all_nil]
          refine ⟨trivial, joined.published, ⟨rfl, rfl, joined.stokes, joined.power⟩, ?_⟩
          intro d other
          cases d with
          | on => exact absurd rfl other
          | off => exact ⟨rfl, by simp [accFirst, cal], (joined.others .off other).1, (joined.others .off other).2⟩
      | off =>
          have short : ¬ cfg.accLen ≤ st.accOffId + 1 := by simpa [accCount, cal] using room
          have joined := execute_accumulate cfg .off r
          simp only [joinPath, cal, if_true, reduceCtorEq, if_false, accumulateOff, if_neg short, execute_all_cons,
            execute_all_nil]
          refine ⟨trivial, joined.published, ⟨by simp [accCount, cal], by simp [accFirst, firstOf, accCount, cal], joined.stokes, joined.power⟩, ?_⟩
          intro d other
          cases d with
          | off => exact absurd rfl other
          | on => exact ⟨rfl, rfl, (joined.others .on other).1, (joined.others .on other).2⟩
  | false =>
      obtain rfl := plain_off cfg st c kind cal
      have short : ¬ cfg.accLen ≤ st.accId + 1 := by simpa [accCount, cal] using room
      have started := plain_start cfg st r cal
      simp only [joinPath, cal, Bool.false_eq_true, if_false, accumulatePlain, if_neg short, execute_all_append, started,
        execute_all_cons, execute_all_nil]
      have joined := execute_accumulate cfg .off
        { r with slots := Function.update r.slots st.hhead { r.slots st.hhead with firstTimestampNs := firstOf cfg st r .off } }
      refine ⟨trivial, joined.published, ⟨by simp [accCount, cal], ?_, joined.stokes, joined.power⟩, ?_⟩
      · simp [accFirst, cal, joined.slots]
      · intro d other
        cases d with
        | off => exact absurd rfl other
        | on => exact ⟨rfl, rfl, (joined.others .on other).1, (joined.others .on other).2⟩

structure Cleared (r next : ResultSide cfg) (acc : NoiseState) : Prop where
  stokes : next.memory (.stokes acc) = fun _ => (0 : Float4 𝕜)
  power : next.memory (.sumPower acc) = (0 : 𝕜)
  others : ∀ c, c ≠ acc → next.memory (.stokes c) = r.memory (.stokes c) ∧
    next.memory (.sumPower c) = r.memory (.sumPower c)

theorem expose_then_clear (acc : NoiseState) (slot : Fin numSlots) (r : ResultSide cfg) (clears : List (GpuInstr cfg))
    (order : clears = clearAccumulators cfg acc ∨
      clears = [.launch .d2h (.clearSum acc), .launch .d2h (.clearStokes acc)]) :
    (executeAll cfg (exposeSlot cfg acc slot ++ clears) r).published =
      r.published ++ [exposed cfg acc slot r (r.slots slot).firstTimestampNs (r.slots slot).lastTimestampNs] ∧
    Cleared cfg r (executeAll cfg (exposeSlot cfg acc slot ++ clears) r) acc := by
  have exposes := expose_published cfg acc slot r
  have keeps := expose_accumulators cfg acc slot r
  rw [execute_all_append]
  generalize executeAll cfg (exposeSlot cfg acc slot) r = middle at exposes keeps ⊢
  rcases order with rfl | rfl
  · refine ⟨exposes, ⟨?_, ?_, fun c other => ?_⟩⟩
    · cases acc <;> rfl
    · cases acc <;> rfl
    · rw [← (keeps c).1, ← (keeps c).2]
      cases c <;> cases acc <;> first | exact absurd rfl other | exact ⟨rfl, rfl⟩
  · refine ⟨exposes, ⟨?_, ?_, fun c other => ?_⟩⟩
    · cases acc <;> rfl
    · cases acc <;> rfl
    · rw [← (keeps c).1, ← (keeps c).2]
      cases c <;> cases acc <;> first | exact absurd rfl other | exact ⟨rfl, rfl⟩

theorem cal_publish_effect (acc : NoiseState) (slot : Fin numSlots) (first last : Nat) (r : ResultSide cfg) :
    (executeAll cfg (calPublish cfg acc slot first last) r).published = r.published ++ [exposed cfg acc slot r first last] ∧
    Cleared cfg r (executeAll cfg (calPublish cfg acc slot first last) r) acc := by
  rw [calPublish, List.append_assoc, execute_all_append]
  obtain ⟨published, cleared⟩ := expose_then_clear cfg acc slot
    (executeAll cfg [.host (.setFirst slot first), .host (.setLast slot last)] r) _ (Or.inl rfl)
  refine ⟨?_, ⟨cleared.stokes, cleared.power, cleared.others⟩⟩
  rw [published]
  simp [execute, storeSlot, exposed]

-- A launch and the memsets that follow it leave the other accumulator alone.
theorem joined_cleared_others (r next last : ResultSide cfg) (acc : NoiseState) (joined : Joined cfg r next acc)
    (cleared : Cleared cfg next last acc) (d : NoiseState) (other : d ≠ acc) :
    last.memory (.stokes d) = r.memory (.stokes d) ∧ last.memory (.sumPower d) = r.memory (.sumPower d) :=
  ⟨(cleared.others d other).1.trans (joined.others d other).1, (cleared.others d other).2.trans (joined.others d other).2⟩

-- A full accumulator is published and starts again; the others stand.
structure PublishedTurn (st : GpuPfbFft cfg) (r : ResultSide cfg) (c : NoiseState) (after : GpuPfbFft cfg) (next : ResultSide cfg) :
    Prop where
  flag : after.accumulatorsResetForGap = false
  result : ∃ result, next.published = r.published ++ [result] ∧ Released cfg st r c result
  emptied : Emptied cfg after next c
  others : ∀ d, d ≠ c → Untouched cfg st r after next d

theorem acc_publish_on (st : GpuPfbFft cfg) (r : ResultSide cfg) (kind : accKind cfg st = .add .on) (cal : cfg.calMode = true)
    (full : cfg.accLen ≤ accCount cfg st .on + 1) : PublishedTurn cfg st r .on (accAfter cfg st) (accExec cfg st r) := by
  have body := body_add cfg st .on kind
  have after : accAfter cfg st = (stokesAccBody cfg st).1 := rfl
  have long : cfg.accLen ≤ st.accOnId + 1 := full
  have joined := execute_accumulate cfg .on r
  rw [after, acc_exec_body, body]
  simp only [joinPath, cal, if_true, accumulateOn, if_pos long, execute_all_cons]
  obtain ⟨published, cleared⟩ := cal_publish_effect cfg .on st.hhead
    (if st.accOnId = 0 then st.timestampNs else st.accOnFirstTimestampNs) st.timestampNs
    (execute cfg r (accumulate cfg .on))
  refine ⟨rfl, ⟨_, published.trans (congrArg (· ++ _) joined.published),
    joined_released cfg st r _ .on _ rfl joined.stokes joined.power⟩, ⟨rfl, fun _ => cleared.stokes, fun _ => cleared.power⟩, ?_⟩
  intro d other
  obtain ⟨stokes, power⟩ := joined_cleared_others cfg r _ _ .on joined cleared d other
  cases d with
  | on => exact absurd rfl other
  | off => exact ⟨rfl, by simp [accFirst, cal], stokes, power⟩

theorem acc_publish_off (st : GpuPfbFft cfg) (r : ResultSide cfg) (kind : accKind cfg st = .add .off) (cal : cfg.calMode = true)
    (full : cfg.accLen ≤ accCount cfg st .off + 1) : PublishedTurn cfg st r .off (accAfter cfg st) (accExec cfg st r) := by
  have body := body_add cfg st .off kind
  have after : accAfter cfg st = (stokesAccBody cfg st).1 := rfl
  have long : cfg.accLen ≤ st.accOffId + 1 := by simpa [accCount, cal] using full
  have joined := execute_accumulate cfg .off r
  rw [after, acc_exec_body, body]
  simp only [joinPath, cal, if_true, reduceCtorEq, if_false, accumulateOff, if_pos long, execute_all_cons]
  obtain ⟨published, cleared⟩ := cal_publish_effect cfg .off st.hhead
    (if st.accOffId = 0 then st.timestampNs else st.accOffFirstTimestampNs) st.timestampNs
    (execute cfg r (accumulate cfg .off))
  have begins : (if st.accOffId = 0 then st.timestampNs else st.accOffFirstTimestampNs) = firstOf cfg st r .off := by
    simp [firstOf, accCount, accFirst, cal]
  refine ⟨rfl, ⟨_, published.trans (congrArg (· ++ _) joined.published),
    joined_released cfg st r _ .off _ begins joined.stokes joined.power⟩,
    ⟨by simp [accCount, cal], fun _ => cleared.stokes, fun _ => cleared.power⟩, ?_⟩
  intro d other
  obtain ⟨stokes, power⟩ := joined_cleared_others cfg r _ _ .off joined cleared d other
  cases d with
  | off => exact absurd rfl other
  | on => exact ⟨rfl, rfl, stokes, power⟩

theorem acc_publish_plain (st : GpuPfbFft cfg) (r : ResultSide cfg) (kind : accKind cfg st = .add .off) (plain : cfg.calMode = false)
    (full : cfg.accLen ≤ accCount cfg st .off + 1) : PublishedTurn cfg st r .off (accAfter cfg st) (accExec cfg st r) := by
  have body := body_add cfg st .off kind
  have after : accAfter cfg st = (stokesAccBody cfg st).1 := rfl
  have long : cfg.accLen ≤ st.accId + 1 := by simpa [accCount, plain] using full
  have started := plain_start cfg st r plain
  rw [after, acc_exec_body, body]
  simp only [joinPath, plain, Bool.false_eq_true, if_false, accumulatePlain, if_pos long, List.append_assoc]
  rw [execute_all_append, started, execute_all_append]
  simp only [execute_all_cons, execute_all_nil]
  -- The first timestamp is written before the launch, the last one after it.
  have joined := execute_accumulate cfg .off
    { r with slots := Function.update r.slots st.hhead { r.slots st.hhead with firstTimestampNs := firstOf cfg st r .off } }
  obtain ⟨published, cleared⟩ := expose_then_clear cfg .off st.hhead (execute cfg (execute cfg
    { r with slots := Function.update r.slots st.hhead { r.slots st.hhead with firstTimestampNs := firstOf cfg st r .off } }
    (accumulate cfg .off)) (.host (.setLast st.hhead st.timestampNs))) _ (Or.inr rfl)
  have begins : ∀ next : ResultSide cfg, next.slots = Function.update r.slots st.hhead
      { r.slots st.hhead with firstTimestampNs := firstOf cfg st r .off } →
      (execute cfg next (.host (.setLast st.hhead st.timestampNs))).slots st.hhead =
        { r.slots st.hhead with firstTimestampNs := firstOf cfg st r .off, lastTimestampNs := st.timestampNs } := by
    intro next slots
    rw [execute_set_last]
    simp only [storeSlot, Function.update_self, slots]
  rw [begins _ joined.slots] at published
  refine ⟨rfl, ⟨_, published.trans (congrArg (· ++ _) joined.published),
    joined_released cfg st r _ .off _ rfl joined.stokes joined.power⟩,
    ⟨by simp [accCount, plain], fun _ => cleared.stokes, fun _ => cleared.power⟩, ?_⟩
  intro d other
  cases d with
  | off => exact absurd rfl other
  | on =>
      have same := cleared.others .on other
      exact ⟨rfl, rfl, same.1.trans (joined.others .on other).1, same.2.trans (joined.others .on other).2⟩

theorem acc_publish (st : GpuPfbFft cfg) (r : ResultSide cfg) (c : NoiseState) (kind : accKind cfg st = .add c)
    (full : cfg.accLen ≤ accCount cfg st c + 1) : PublishedTurn cfg st r c (accAfter cfg st) (accExec cfg st r) := by
  cases cal : cfg.calMode with
  | true =>
      cases c with
      | on => exact acc_publish_on cfg st r kind cal full
      | off => exact acc_publish_off cfg st r kind cal full
  | false =>
      obtain rfl := plain_off cfg st c kind cal
      exact acc_publish_plain cfg st r kind cal full

end

end SpectralLine
