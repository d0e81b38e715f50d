import SpectralLine.Accumulators

set_option autoImplicit false

namespace SpectralLine

open Ledger

section

variable {𝕜 : Type} (cfg : GpuConfig 𝕜)

-- What StokesAcc finds for one block.
structure ProcessedBlock where
  outputValid : Bool
  noiseState : NoiseState
  noiseCycleStartNs : Nat
  timestampNs : Nat
  A : Samples cfg
  B : Samples cfg

def ProcessedBlock.load {cfg : GpuConfig 𝕜} (block : ProcessedBlock cfg) (st : GpuPfbFft cfg) : GpuPfbFft cfg :=
  { st with
    currentPfbOutputValid := block.outputValid
    noiseState := block.noiseState
    noiseCycleStartNs := block.noiseCycleStartNs
    timestampNs := block.timestampNs }

def ProcessedBlock.blanked {cfg : GpuConfig 𝕜} (block : ProcessedBlock cfg) : Bool :=
  cfg.calMode && isNoiseBlank cfg (block.load (GpuPfbFft.initial cfg)) block.timestampNs

def blockKind (block : ProcessedBlock cfg) : Kind NoiseState := accKind cfg (block.load (GpuPfbFft.initial cfg))

-- The state and the buffers show a block.
structure Presents (block : ProcessedBlock cfg) (st : GpuPfbFft cfg) (r : ResultSide cfg) : Prop where
  state : block.load st = st
  fftedA : r.memory (.ffted .A) = block.A
  fftedB : r.memory (.ffted .B) = block.B

theorem presents_kind (block : ProcessedBlock cfg) (st : GpuPfbFft cfg) (r : ResultSide cfg)
    (presents : Presents cfg block st r) : accKind cfg st = blockKind cfg block := by
  rw [← presents.state]
  rfl

theorem block_kind_cases (block : ProcessedBlock cfg) :
    blockKind cfg block =
      if !block.outputValid then .reset
      else if cfg.calMode then
        (if isNoiseBlank cfg (block.load (GpuPfbFft.initial cfg)) block.timestampNs then .skip else .add block.noiseState)
      else .add .off := rfl

theorem block_kind_add (block : ProcessedBlock cfg) (c : NoiseState) :
    blockKind cfg block = .add c ↔
      block.outputValid = true ∧ block.blanked = false ∧ c = if cfg.calMode then block.noiseState else .off := by
  rw [block_kind_cases, ProcessedBlock.blanked]
  generalize isNoiseBlank cfg (block.load (GpuPfbFft.initial cfg)) block.timestampNs = blank
  cases block.outputValid with
  | false => simp
  | true =>
      cases cfg.calMode with
      | false => simp [@eq_comm _ NoiseState.off c]
      | true =>
          cases blank with
          | false => simp [@eq_comm _ block.noiseState c]
          | true => simp

theorem block_kind_reset (block : ProcessedBlock cfg) : blockKind cfg block = .reset ↔ block.outputValid = false := by
  rw [block_kind_cases]
  cases block.outputValid with
  | false => simp
  | true => split_ifs with invalid <;> simp_all

variable [Field 𝕜]

def stokesSum (blocks : Nat → ProcessedBlock cfg) (members : List Nat) : Stokes cfg :=
  (members.map fun i => stokesOf cfg (blocks i).A (blocks i).B).sum

def powerSum (blocks : Nat → ProcessedBlock cfg) (members : List Nat) : 𝕜 :=
  (members.map fun i => continuumOf cfg (blocks i).A (blocks i).B).sum

structure Composes (blocks : Nat → ProcessedBlock cfg) (result : IntegrationResult cfg) (entry : NoiseState × List Nat) :
    Prop where
  noise : result.noiseState = entry.1
  stokes : cfg.spectral = true → result.data = stokesSum cfg blocks entry.2
  power : cfg.spectral = false → result.sumPower = powerSum cfg blocks entry.2
  first : ∀ i, entry.2.head? = some i → result.firstTimestampNs = (blocks i).timestampNs
  last : ∀ i, entry.2.getLast? = some i → result.lastTimestampNs = (blocks i).timestampNs

-- The accumulators, counters and results of the code against the ledger.
structure Accounts (blocks : Nat → ProcessedBlock cfg) (ledger : Ledger.State NoiseState) (st : GpuPfbFft cfg)
    (r : ResultSide cfg) : Prop where
  count : ∀ c, accCount cfg st c = (ledger.pending c).length
  first : ∀ c i, (ledger.pending c).head? = some i → accFirst cfg st r c = (blocks i).timestampNs
  stokes : cfg.spectral = true → ∀ c, r.memory (.stokes c) = stokesSum cfg blocks (ledger.pending c)
  power : cfg.spectral = false → ∀ c, r.memory (.sumPower c) = powerSum cfg blocks (ledger.pending c)
  gap : st.accumulatorsResetForGap = true → ∀ c, ledger.pending c = []
  published : List.Forall₂ (Composes cfg blocks) r.published ledger.published

theorem initial_accounts (blocks : Nat → ProcessedBlock cfg) :
    Accounts cfg blocks .start (GpuPfbFft.initial cfg) (ResultSide.initial cfg) := by
  constructor
  · intro c
    cases c <;> simp [accCount, GpuPfbFft.initial, Ledger.State.start]
  · intro c i none
    cases none
  · intro _ c
    rfl
  · intro _ c
    rfl
  · intro flag
    cases flag
  · exact List.Forall₂.nil

structure Agrees (blocks : Nat → ProcessedBlock cfg) (pending : List Nat) (st : GpuPfbFft cfg) (r : ResultSide cfg)
    (c : NoiseState) : Prop where
  count : accCount cfg st c = pending.length
  first : ∀ i, pending.head? = some i → accFirst cfg st r c = (blocks i).timestampNs
  stokes : cfg.spectral = true → r.memory (.stokes c) = stokesSum cfg blocks pending
  power : cfg.spectral = false → r.memory (.sumPower c) = powerSum cfg blocks pending

variable (blocks : Nat → ProcessedBlock cfg)

theorem accounts_agree (ledger : Ledger.State NoiseState) (st : GpuPfbFft cfg) (r : ResultSide cfg)
    (accounts : Accounts cfg blocks ledger st r) (c : NoiseState) : Agrees cfg blocks (ledger.pending c) st r c :=
  ⟨accounts.count c, accounts.first c, fun mode => accounts.stokes mode c, fun mode => accounts.power mode c⟩

theorem agree_accounts (ledger : Ledger.State NoiseState) (st : GpuPfbFft cfg) (r : ResultSide cfg)
    (agrees : ∀ c, Agrees cfg blocks (ledger.pending c) st r c)
    (gap : st.accumulatorsResetForGap = true → ∀ c, ledger.pending c = [])
    (published : List.Forall₂ (Composes cfg blocks) r.published ledger.published) :
    Accounts cfg blocks ledger st r :=
  ⟨fun c => (agrees c).count, fun c => (agrees c).first, fun mode c => (agrees c).stokes mode,
    fun mode c => (agrees c).power mode, gap, published⟩

theorem untouched_agrees (pending : List Nat) (st after : GpuPfbFft cfg) (r next : ResultSide cfg) (c : NoiseState)
    (agrees : Agrees cfg blocks pending st r c) (untouched : Untouched cfg st r after next c) :
    Agrees cfg blocks pending after next c := by
  constructor
  · rw [untouched.count]
    exact agrees.count
  · intro i head
    rw [untouched.first]
    exact agrees.first i head
  · intro mode
    rw [untouched.stokes]
    exact agrees.stokes mode
  · intro mode
    rw [untouched.power]
    exact agrees.power mode

theorem emptied_agrees (st : GpuPfbFft cfg) (r : ResultSide cfg) (c : NoiseState) (emptied : Emptied cfg st r c) :
    Agrees cfg blocks [] st r c := by
  constructor
  · exact emptied.count
  · intro i head
    cases head
  · exact emptied.stokes
  · exact emptied.power

theorem stokes_joined (pending : List Nat) (st : GpuPfbFft cfg) (r : ResultSide cfg) (c : NoiseState) (k : Nat)
    (agrees : Agrees cfg blocks pending st r c) (presents : Presents cfg (blocks k) st r) (mode : cfg.spectral = true) :
    stokesJoined cfg r c = stokesSum cfg blocks (pending ++ [k]) := by
  rw [stokesJoined, agrees.stokes mode, presents.fftedA, presents.fftedB, stokesIQUVAccumulate]
  simp [stokesSum]

theorem power_joined (pending : List Nat) (st : GpuPfbFft cfg) (r : ResultSide cfg) (c : NoiseState) (k : Nat)
    (agrees : Agrees cfg blocks pending st r c) (presents : Presents cfg (blocks k) st r) (mode : cfg.spectral = false) :
    powerJoined cfg r c = powerSum cfg blocks (pending ++ [k]) := by
  rw [powerJoined, agrees.power mode, presents.fftedA, presents.fftedB, continuumPowerAccumulate]
  simp [powerSum]

theorem first_joined (pending : List Nat) (st : GpuPfbFft cfg) (r : ResultSide cfg) (c : NoiseState) (k i : Nat)
    (agrees : Agrees cfg blocks pending st r c) (presents : Presents cfg (blocks k) st r)
    (head : (pending ++ [k]).head? = some i) : firstOf cfg st r c = (blocks i).timestampNs := by
  rw [firstOf, agrees.count]
  cases pending with
  | nil =>
      cases head
      rw [← presents.state]
      rfl
  | cons j rest =>
      cases head
      exact agrees.first i rfl

theorem grown_agrees (pending : List Nat) (st after : GpuPfbFft cfg) (r next : ResultSide cfg) (c : NoiseState) (k : Nat)
    (agrees : Agrees cfg blocks pending st r c) (presents : Presents cfg (blocks k) st r)
    (grown : Grown cfg st r after next c) : Agrees cfg blocks (pending ++ [k]) after next c := by
  constructor
  · rw [grown.count, agrees.count, List.length_append, List.length_singleton]
  · intro i head
    rw [grown.first]
    exact first_joined cfg blocks pending st r c k i agrees presents head
  · intro mode
    rw [grown.stokes mode]
    exact stokes_joined cfg blocks pending st r c k agrees presents mode
  · intro mode
    rw [grown.power mode]
    exact power_joined cfg blocks pending st r c k agrees presents mode

theorem released_composes (pending : List Nat) (st : GpuPfbFft cfg) (r : ResultSide cfg) (c : NoiseState) (k : Nat)
    (result : IntegrationResult cfg) (agrees : Agrees cfg blocks pending st r c)
    (presents : Presents cfg (blocks k) st r) (released : Released cfg st r c result) :
    Composes cfg blocks result (c, pending ++ [k]) := by
  constructor
  · exact released.noise
  · intro mode
    rw [released.stokes mode]
    exact stokes_joined cfg blocks pending st r c k agrees presents mode
  · intro mode
    rw [released.power mode]
    exact power_joined cfg blocks pending st r c k agrees presents mode
  · intro i head
    rw [released.first]
    exact first_joined cfg blocks pending st r c k i agrees presents head
  · intro i final
    obtain rfl : k = i := by simpa using final
    rw [released.last, ← presents.state]
    rfl

theorem acc_releases (ledger : Ledger.State NoiseState) (st : GpuPfbFft cfg) (r : ResultSide cfg)
    (accounts : Accounts cfg blocks ledger st r) (presents : Presents cfg (blocks ledger.seen) st r) (c : NoiseState)
    (kind : blockKind cfg (blocks ledger.seen) = .add c) (full : cfg.accLen ≤ (ledger.pending c).length + 1) :
    ∃ result, (accExec cfg st r).published = r.published ++ [result] ∧
      Composes cfg blocks result (c, ledger.pending c ++ [ledger.seen]) := by
  have joins := (presents_kind cfg _ st r presents).trans kind
  obtain ⟨_, ⟨result, published, released⟩, _⟩ := acc_publish cfg st r c joins (by rw [accounts.count c]; exact full)
  exact ⟨result, published,
    released_composes cfg blocks _ st r c _ result (accounts_agree cfg blocks ledger st r accounts c) presents released⟩

theorem acc_holds (ledger : Ledger.State NoiseState) (st : GpuPfbFft cfg) (r : ResultSide cfg)
    (accounts : Accounts cfg blocks ledger st r) (presents : Presents cfg (blocks ledger.seen) st r)
    (open_ : ∀ c, blockKind cfg (blocks ledger.seen) = .add c → ¬ cfg.accLen ≤ (ledger.pending c).length + 1) :
    (accExec cfg st r).published = r.published := by
  have kind := presents_kind cfg _ st r presents
  cases what : blockKind cfg (blocks ledger.seen) with
  | reset => exact (acc_reset cfg st r (kind.trans what)).2.1
  | skip => exact (acc_skip cfg st r (kind.trans what)).2.1
  | add c => exact (acc_grow cfg st r c (kind.trans what) (by rw [accounts.count c]; exact open_ c what)).2.1

-- One call of StokesAcc is one step of the ledger.
theorem acc_step (ledger : Ledger.State NoiseState) (st : GpuPfbFft cfg) (r : ResultSide cfg)
    (accounts : Accounts cfg blocks ledger st r) (presents : Presents cfg (blocks ledger.seen) st r) :
    Accounts cfg blocks (Ledger.step cfg.accLen (blockKind cfg (blocks ledger.seen)) ledger) (accAfter cfg st)
      (accExec cfg st r) := by
  have kind := presents_kind cfg _ st r presents
  have agrees := accounts_agree cfg blocks ledger st r accounts
  cases what : blockKind cfg (blocks ledger.seen) with
  | reset =>
      obtain ⟨_, published, fresh, again⟩ := acc_reset cfg st r (kind.trans what)
      apply agree_accounts
      · intro c
        cases done : st.accumulatorsResetForGap with
        | false => exact emptied_agrees cfg blocks _ _ c (fresh done c)
        | true =>
            have old := agrees c
            rw [accounts.gap done c] at old
            exact untouched_agrees cfg blocks [] st _ r _ c old (again done c)
      · intro _ c
        rfl
      · rw [published]
        exact accounts.published
  | skip =>
      obtain ⟨flag, published, untouched⟩ := acc_skip cfg st r (kind.trans what)
      apply agree_accounts
      · intro c
        exact untouched_agrees cfg blocks _ st _ r _ c (agrees c) (untouched c)
      · intro kept
        rw [flag] at kept
        cases kept
      · rw [published]
        exact accounts.published
  | add c =>
      by_cases full : cfg.accLen ≤ (ledger.pending c).length + 1
      · obtain ⟨result, published, composes⟩ := acc_releases cfg blocks ledger st r accounts presents c what full
        obtain ⟨flag, _, emptied, others⟩ := acc_publish cfg st r c (kind.trans what) (by rw [accounts.count c]; exact full)
        rw [Ledger.step, if_pos full]
        apply agree_accounts
        · intro d
          by_cases same : d = c
          · simp only [same, Function.update_self]
            exact emptied_agrees cfg blocks _ _ c emptied
          · simp only [Function.update_of_ne same]
            exact untouched_agrees cfg blocks _ st _ r _ d (agrees d) (others d same)
        · intro kept
          rw [flag] at kept
          cases kept
        · rw [published]
          exact List.rel_append accounts.published (List.Forall₂.cons composes .nil)
      · obtain ⟨flag, published, grown, others⟩ :=
          acc_grow cfg st r c (kind.trans what) (by rw [accounts.count c]; exact full)
        rw [Ledger.step, if_neg full]
        apply agree_accounts
        · intro d
          by_cases same : d = c
          · simp only [same, Function.update_self]
            exact grown_agrees cfg blocks _ st _ r _ c _ (agrees c) presents grown
          · simp only [Function.update_of_ne same]
            exact untouched_agrees cfg blocks _ st _ r _ d (agrees d) (others d same)
        · intro kept
          rw [flag] at kept
          cases kept
        · rw [published]
          exact accounts.published

theorem accounts_untouched (ledger : Ledger.State NoiseState) (st after : GpuPfbFft cfg) (r next : ResultSide cfg)
    (accounts : Accounts cfg blocks ledger st r) (untouched : ∀ c, Untouched cfg st r after next c)
    (gap : after.accumulatorsResetForGap = st.accumulatorsResetForGap) (published : next.published = r.published) :
    Accounts cfg blocks ledger after next := by
  apply agree_accounts
  · intro c
    exact untouched_agrees cfg blocks _ st after r next c (accounts_agree cfg blocks ledger st r accounts c) (untouched c)
  · intro kept
    rw [gap] at kept
    exact accounts.gap kept
  · rw [published]
    exact accounts.published

def presentBlock (block : ProcessedBlock cfg) (r : ResultSide cfg) : ResultSide cfg :=
  { r with memory := Function.update (Function.update r.memory (.ffted .A) block.A) (.ffted .B) block.B }

def processBlocks : Nat → GpuPfbFft cfg × ResultSide cfg
  | 0 => (GpuPfbFft.initial cfg, ResultSide.initial cfg)
  | count + 1 =>
      let st := (blocks count).load (processBlocks count).1
      let r := presentBlock cfg (blocks count) (processBlocks count).2
      (accAfter cfg st, accExec cfg st r)

def kindAt (i : Nat) : Kind NoiseState := blockKind cfg (blocks i)

def ledgerOf (count : Nat) : Ledger.State NoiseState := Ledger.run cfg.accLen (kindAt cfg blocks) count

def loadedState (count : Nat) : GpuPfbFft cfg := (blocks count).load (processBlocks cfg blocks count).1

def loadedSide (count : Nat) : ResultSide cfg := presentBlock cfg (blocks count) (processBlocks cfg blocks count).2

omit [Field 𝕜] in
theorem ledger_seen (count : Nat) : (ledgerOf cfg blocks count).seen = count :=
  (Ledger.run_balanced cfg.accLen (kindAt cfg blocks) cfg.accLenPos count).1

omit [Field 𝕜] in
theorem ledger_balanced (count : Nat) : Ledger.Balanced cfg.accLen (kindAt cfg blocks) (ledgerOf cfg blocks count) :=
  (Ledger.run_balanced cfg.accLen (kindAt cfg blocks) cfg.accLenPos count).2

theorem loaded_presents (count : Nat) : Presents cfg (blocks (ledgerOf cfg blocks count).seen) (loadedState cfg blocks count)
    (loadedSide cfg blocks count) := by
  rw [ledger_seen]
  exact ⟨rfl, rfl, rfl⟩

theorem loaded_accounts (count : Nat)
    (accounts : Accounts cfg blocks (ledgerOf cfg blocks count) (processBlocks cfg blocks count).1
      (processBlocks cfg blocks count).2) :
    Accounts cfg blocks (ledgerOf cfg blocks count) (loadedState cfg blocks count) (loadedSide cfg blocks count) := by
  refine accounts_untouched cfg blocks _ _ _ _ _ accounts (fun c => ?_) rfl rfl
  cases c with
  | on => exact ⟨rfl, rfl, rfl, rfl⟩
  | off => exact ⟨rfl, rfl, rfl, rfl⟩

theorem process_accounts (count : Nat) :
    Accounts cfg blocks (ledgerOf cfg blocks count) (processBlocks cfg blocks count).1 (processBlocks cfg blocks count).2 := by
  induction count with
  | zero => exact initial_accounts cfg blocks
  | succ count ih =>
      have next := acc_step cfg blocks _ _ _ (loaded_accounts cfg blocks count ih) (loaded_presents cfg blocks count)
      rw [ledger_seen] at next
      exact next

def Eligible (block : ProcessedBlock cfg) (c : NoiseState) : Prop :=
  block.outputValid = true ∧ block.blanked = false ∧ c = if cfg.calMode then block.noiseState else .off

omit [Field 𝕜] in
theorem kind_eligible (i : Nat) (c : NoiseState) : kindAt cfg blocks i = .add c ↔ Eligible cfg (blocks i) c :=
  block_kind_add cfg (blocks i) c

-- The blocks of a result: all that are eligible from the first to the last,
-- in an interval without an invalid block.
def Integrated (entry : NoiseState × List Nat) (count : Nat) : Prop :=
  ∃ first last, entry.2.head? = some first ∧ entry.2.getLast? = some last ∧ last < count ∧
    entry.2.length = cfg.accLen ∧
    (∀ i, i ∈ entry.2 ↔ first ≤ i ∧ i ≤ last ∧ Eligible cfg (blocks i) entry.1) ∧
    (∀ i, first ≤ i → i ≤ last → (blocks i).outputValid = true) ∧
    (cfg.calMode = false → entry.2 = List.range' first cfg.accLen)

omit [Field 𝕜] in
theorem published_integrated (count : Nat) (entry : NoiseState × List Nat)
    (member : entry ∈ (ledgerOf cfg blocks count).published) : Integrated cfg blocks entry count := by
  have balanced := ledger_balanced cfg blocks count
  obtain ⟨first, last, before, complete⟩ := balanced.complete entry member
  have past := balanced.emptied entry.1
  rw [ledger_seen] at past
  refine ⟨first, last, complete.head, complete.final, by omega, complete.count, ?_, ?_, ?_⟩
  · intro i
    rw [complete.members, Ledger.mem_picked, kind_eligible, Nat.lt_succ_iff, and_assoc]
  · intro i low high
    by_contra invalid
    exact complete.quiet i low high ((block_kind_reset cfg (blocks i)).mpr (by simpa using invalid))
  · intro plain
    apply Ledger.complete_consecutive cfg.accLen (kindAt cfg blocks) entry first last complete
    have off : entry.1 = .off := by
      have joins := ((kind_eligible cfg blocks first entry.1).mp complete.joins.1).2.2
      simpa [plain] using joins
    intro i valid
    rw [kind_eligible, off]
    refine ⟨?_, by simp [ProcessedBlock.blanked, plain], by simp [plain]⟩
    by_contra invalid
    exact valid ((block_kind_reset cfg (blocks i)).mpr (by simpa using invalid))

omit [Field 𝕜] in
theorem pending_blocks (count : Nat) (c : NoiseState) :
    (∀ i, i ∈ (ledgerOf cfg blocks count).pending c ↔
      (ledgerOf cfg blocks count).emptied c ≤ i ∧ i < count ∧ Eligible cfg (blocks i) c) ∧
    ((ledgerOf cfg blocks count).emptied c = 0 ∨ ∃ e, (ledgerOf cfg blocks count).emptied c = e + 1 ∧
      ((blocks e).outputValid = false ∨
        ∃ entry ∈ (ledgerOf cfg blocks count).published, entry.1 = c ∧ entry.2.getLast? = some e)) := by
  have balanced := ledger_balanced cfg blocks count
  constructor
  · intro i
    rw [balanced.pending c, Ledger.mem_picked, kind_eligible, ledger_seen, and_assoc]
  · have since := balanced.since c
    simp only [kindAt, block_kind_reset] at since
    exact since

omit [Field 𝕜] in
theorem discarded_blocks (count : Nat) (c : NoiseState) (i : Nat) (member : i ∈ (ledgerOf cfg blocks count).discarded c) :
    ∃ e, i < e ∧ e < count ∧ (blocks e).outputValid = false := by
  obtain ⟨e, after, past, resets⟩ := (ledger_balanced cfg blocks count).lost c i member
  rw [ledger_seen] at past
  exact ⟨e, after, past, (block_kind_reset cfg (blocks e)).mp resets⟩

theorem integration_composition (count : Nat) :
    let results : List (IntegrationResult cfg) := (processBlocks cfg blocks count).2.published
    let next := (processBlocks cfg blocks (count + 1)).2.published
    let ledger := ledgerOf cfg blocks count
    List.Forall₂ (Composes cfg blocks) results ledger.published ∧
    (∀ entry ∈ ledger.published, Integrated cfg blocks entry count) ∧
    (ledger.published.flatMap Prod.snd).Nodup ∧
    (∀ c i, i < count → Eligible cfg (blocks i) c →
      (∃ entry ∈ ledger.published, i ∈ entry.2) ∨ i ∈ ledger.discarded c ∨ i ∈ ledger.pending c) ∧
    (∀ c, (ledger.discarded c ++ ledger.pending c).Nodup ∧
      ∀ i ∈ ledger.discarded c ++ ledger.pending c, ∀ entry ∈ ledger.published, i ∉ entry.2) ∧
    (∀ c, ∀ i ∈ ledger.discarded c, ∃ e, i < e ∧ e < count ∧ (blocks e).outputValid = false) ∧
    (∀ c, (∀ i, i ∈ ledger.pending c ↔ ledger.emptied c ≤ i ∧ i < count ∧ Eligible cfg (blocks i) c) ∧
      (ledger.emptied c = 0 ∨ ∃ e, ledger.emptied c = e + 1 ∧
        ((blocks e).outputValid = false ∨ ∃ entry ∈ ledger.published, entry.1 = c ∧ entry.2.getLast? = some e))) ∧
    (∀ c, Eligible cfg (blocks count) c → (ledger.pending c).length + 1 = cfg.accLen →
      ∃ result, next = results ++ [result] ∧ Composes cfg blocks result (c, ledger.pending c ++ [count])) ∧
    ((∀ c, Eligible cfg (blocks count) c → (ledger.pending c).length + 1 ≠ cfg.accLen) → next = results) := by
  have accounts := process_accounts cfg blocks count
  have balanced := ledger_balanced cfg blocks count
  have loaded := loaded_accounts cfg blocks count accounts
  have presents := loaded_presents cfg blocks count
  refine ⟨accounts.published, published_integrated cfg blocks count, balanced.once, ?_,
    Ledger.apart _ _ _ balanced, discarded_blocks cfg blocks count, pending_blocks cfg blocks count, ?_, ?_⟩
  · intro c i past eligible
    exact Ledger.placed _ _ _ balanced c i (by rw [ledger_seen]; exact past) ((kind_eligible cfg blocks i c).mpr eligible)
  · intro c eligible last
    have kind := (kind_eligible cfg blocks count c).mpr eligible
    rw [← ledger_seen cfg blocks count] at kind
    obtain ⟨result, published, composes⟩ := acc_releases cfg blocks _ _ _ loaded presents c kind (Nat.le_of_eq last.symm)
    rw [ledger_seen] at composes
    exact ⟨result, published, composes⟩
  · intro short
    apply acc_holds cfg blocks _ _ _ loaded presents
    intro c kind full
    rw [ledger_seen] at kind
    have below := balanced.below c
    exact short c ((kind_eligible cfg blocks count c).mp kind) (by omega)

end

end SpectralLine
