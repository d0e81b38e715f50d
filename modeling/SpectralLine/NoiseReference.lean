import SpectralLine.WorkerRun

set_option autoImplicit false

namespace SpectralLine

section

variable {𝕜 : Type} (cfg : GpuConfig 𝕜)

theorem follows_first (st : GpuPfbFft cfg) (turns : List (WorkerTurn cfg)) (chain : Chain cfg st turns)
    (turn : WorkerTurn cfg) (found : turns[0]? = some turn) : Follows cfg st turn := by
  cases chain with
  | nil => cases found
  | cons _ head rest follows later =>
      cases found
      exact follows

theorem follows_previous (st : GpuPfbFft cfg) (turns : List (WorkerTurn cfg)) (chain : Chain cfg st turns) (i : Nat)
    (past turn : WorkerTurn cfg) (before : turns[i]? = some past) (found : turns[i + 1]? = some turn) :
    Follows cfg past.after turn := by
  induction i generalizing st turns with
  | zero =>
      cases chain with
      | nil => cases found
      | cons _ head rest follows later =>
          cases before
          exact follows_first cfg _ rest later turn (by simpa using found)
  | succ i ih =>
      cases chain with
      | nil => cases found
      | cons _ head rest follows later => exact ih _ rest later (by simpa using before) (by simpa using found)

-- The bit that the batch of a turn shows.
def noiseBit (turn : WorkerTurn cfg) : NoiseState := noiseStateOf (turn.pair.batchA.noiseState (firstSlotOf cfg))

-- Turn j is the first to show ON, or the one before it showed OFF.
def OnEdge (turns : List (WorkerTurn cfg)) (j : Nat) : Prop :=
  (∃ turn, turns[j]? = some turn ∧ noiseBit cfg turn = .on) ∧
  ∀ i turn, j = i + 1 → turns[i]? = some turn → noiseBit cfg turn = .off

def LastOnEdge (turns : List (WorkerTurn cfg)) (i j : Nat) : Prop :=
  j ≤ i ∧ OnEdge cfg turns j ∧ ∀ k, j < k → k ≤ i → ¬ OnEdge cfg turns k

theorem noise_step (cal : cfg.calMode = true) (st : GpuPfbFft cfg) (turn : WorkerTurn cfg) (follows : Follows cfg st turn) :
    turn.ready.noiseState = noiseBit cfg turn ∧
    turn.ready.noiseCycleStartNs =
      (updateNoiseState cfg { st with timestampNs := turn.ready.timestampNs } (noiseBit cfg turn)).noiseCycleStartNs ∧
    turn.after.noiseState = noiseBit cfg turn ∧ turn.after.noiseCycleStartNs = turn.ready.noiseCycleStartNs := by
  obtain ⟨state, taken, ready, after, _⟩ := follows
  obtain ⟨noise, cycle⟩ := (take_pair_effect cfg st turn.pair state taken).noise cal
  have kept := stokes_acc_keeps cfg turn.ready
  rw [← after] at kept
  have same : turn.ready.noiseState = noiseBit cfg turn := by
    rw [ready]
    exact noise
  refine ⟨same, ?_, kept.noise.trans same, kept.cycle⟩
  rw [ready]
  exact cycle

-- The reference moves only where OFF turns into ON: the state starts as OFF, so
-- that is the first change too.
theorem latch_step (cal : cfg.calMode = true) (st : GpuPfbFft cfg) (turn : WorkerTurn cfg) (follows : Follows cfg st turn)
    (started : st.noiseState = .on → st.noiseCycleStartNs ≠ 0) :
    turn.ready.noiseCycleStartNs =
      if st.noiseState = .off ∧ noiseBit cfg turn = .on then turn.ready.timestampNs else st.noiseCycleStartNs := by
  rw [(noise_step cfg cal st turn follows).2.1, updateNoiseState]
  cases before : st.noiseState with
  | off =>
      cases shown : noiseBit cfg turn with
      | off => simp
      | on => simp
  | on =>
      cases shown : noiseBit cfg turn with
      | off => simp [started before]
      | on => simp

structure Reference (turns : List (WorkerTurn cfg)) (i : Nat) (turn : WorkerTurn cfg) : Prop where
  started : noiseBit cfg turn = .on → turn.ready.noiseCycleStartNs ≠ 0
  unset : (∀ j ≤ i, ¬ OnEdge cfg turns j) → turn.ready.noiseCycleStartNs = 0
  latched : ∀ j edge, LastOnEdge cfg turns i j → turns[j]? = some edge →
    turn.ready.noiseCycleStartNs = edge.ready.timestampNs

theorem reference_here (turns : List (WorkerTurn cfg)) (i : Nat) (turn : WorkerTurn cfg) (found : turns[i]? = some turn)
    (edge : OnEdge cfg turns i) (positive : turn.ready.timestampNs ≠ 0)
    (latched : turn.ready.noiseCycleStartNs = turn.ready.timestampNs) : Reference cfg turns i turn := by
  refine ⟨fun _ => by rwa [latched], fun none => absurd edge (none i (Nat.le_refl i)), ?_⟩
  intro j other ⟨before, _, last⟩ same
  have here : j = i := by
    by_contra different
    exact last i (by omega) (Nat.le_refl i) edge
  rw [here, found] at same
  cases same
  exact latched

theorem reference_at (cal : cfg.calMode = true) (turns : List (WorkerTurn cfg))
    (chain : Chain cfg (GpuPfbFft.initial cfg) turns)
    (positive : ∀ (i : Nat) (turn : WorkerTurn cfg), turns[i]? = some turn → turn.ready.timestampNs ≠ 0) (i : Nat)
    (turn : WorkerTurn cfg) (found : turns[i]? = some turn) : Reference cfg turns i turn := by
  induction i generalizing turn with
  | zero =>
      have latch := latch_step cfg cal _ turn (follows_first cfg _ turns chain turn found) (fun on => by cases on)
      by_cases on : noiseBit cfg turn = .on
      · rw [if_pos ⟨rfl, on⟩] at latch
        exact reference_here cfg turns 0 turn found ⟨⟨turn, found, on⟩, by simp⟩ (positive 0 turn found) latch
      · rw [if_neg (fun both => on both.2)] at latch
        refine ⟨fun shown => absurd shown on, fun _ => latch, ?_⟩
        intro j edge ⟨before, ⟨⟨first, at_, shown⟩, _⟩, _⟩ _
        obtain rfl : j = 0 := Nat.le_zero.mp before
        rw [found] at at_
        cases at_
        exact absurd shown on
  | succ i ih =>
      have inside := (List.getElem?_eq_some_iff.mp found).1
      obtain ⟨past, before⟩ : ∃ past, turns[i]? = some past := ⟨_, List.getElem?_eq_getElem (by omega)⟩
      have reference := ih past before
      have follows := follows_previous cfg _ turns chain i past turn before found
      obtain ⟨st, earlier⟩ := turn_follows cfg turns _ chain i past before
      obtain ⟨_, _, state, cycle⟩ := noise_step cfg cal st past earlier
      have latch := latch_step cfg cal past.after turn follows (by rw [state, cycle]; exact reference.started)
      rw [state, cycle] at latch
      by_cases edge : noiseBit cfg past = .off ∧ noiseBit cfg turn = .on
      · rw [if_pos edge] at latch
        refine reference_here cfg turns (i + 1) turn found ⟨⟨turn, found, edge.2⟩, ?_⟩ (positive _ turn found) latch
        intro k other same at_
        obtain rfl : i = k := Nat.succ.inj same
        rw [before] at at_
        cases at_
        exact edge.1
      · rw [if_neg edge] at latch
        have still : ¬ OnEdge cfg turns (i + 1) := by
          rintro ⟨⟨other, at_, shown⟩, low⟩
          rw [found] at at_
          cases at_
          exact edge ⟨low i past rfl before, shown⟩
        refine ⟨?_, ?_, ?_⟩
        · intro on
          rw [latch]
          apply reference.started
          cases shown : noiseBit cfg past with
          | off => exact absurd ⟨shown, on⟩ edge
          | on => rfl
        · intro none
          rw [latch]
          exact reference.unset fun j inside => none j (Nat.le_succ_of_le inside)
        · intro j other ⟨inside, begun, last⟩ at_
          have earlier : j ≤ i := by
            by_contra later
            obtain rfl : j = i + 1 := by omega
            exact still begun
          rw [latch]
          exact reference.latched j other ⟨earlier, begun, fun k after within => last k after (Nat.le_succ_of_le within)⟩ at_

theorem accumulate_not_front (acc : NoiseState) (pair : Aligned cfg) (st : GpuPfbFft cfg) :
    accumulate cfg acc ∉ copyInstrs cfg pair ++ (submitPfbFft cfg st).2 := by
  cases mode : cfg.spectral <;> simp [accumulate, mode, copyInstrs, submitPfbFft]

theorem accumulate_not_published (acc other : NoiseState) (slot : Fin numSlots) (first last : Nat) :
    accumulate cfg acc ∉ calPublish cfg other slot first last := by
  cases mode : cfg.spectral <;> simp [accumulate, mode, calPublish, exposeSlot, clearAccumulators]

theorem accumulate_same (acc other : NoiseState) : accumulate cfg acc = accumulate cfg other ↔ other = acc := by
  cases mode : cfg.spectral <;> simp [accumulate, mode, eq_comm]

theorem accumulate_on_adds (st : GpuPfbFft cfg) (acc : NoiseState) :
    accumulate cfg acc ∈ (accumulateOn cfg st).2 ↔ NoiseState.on = acc := by
  unfold accumulateOn
  extract_lets first
  split
  · simp only [List.mem_cons, accumulate_same, accumulate_not_published, or_false]
  · simp only [List.mem_singleton, accumulate_same]

theorem accumulate_off_adds (st : GpuPfbFft cfg) (acc : NoiseState) :
    accumulate cfg acc ∈ (accumulateOff cfg st).2 ↔ NoiseState.off = acc := by
  unfold accumulateOff
  extract_lets first
  split
  · simp only [List.mem_cons, accumulate_same, accumulate_not_published, or_false]
  · simp only [List.mem_singleton, accumulate_same]

theorem stokes_acc_adds (cal : cfg.calMode = true) (st : GpuPfbFft cfg) (acc : NoiseState) :
    accumulate cfg acc ∈ (stokesAcc cfg st).2 ↔
      st.currentPfbOutputValid = true ∧ isNoiseBlank cfg st st.timestampNs = false ∧ st.noiseState = acc := by
  have waits : accumulate cfg acc ∈ (stokesAcc cfg st).2 ↔ accumulate cfg acc ∈ (stokesAccBody cfg st).2 := by
    simp [stokesAcc, accumulate]
  rw [waits, stokesAccBody]
  by_cases invalid : (!st.currentPfbOutputValid) = true
  · have none : accumulate cfg acc ∉ (resetForGap cfg st).2 := by
      cases mode : cfg.spectral <;> cases done : st.accumulatorsResetForGap <;> simp [resetForGap, accumulate, mode, done]
    rw [if_pos invalid]
    exact iff_of_false none fun adds => by simp [adds.1] at invalid
  rw [if_neg invalid]
  extract_lets current
  have valid : st.currentPfbOutputValid = true := by simpa using invalid
  have same : isNoiseBlank cfg current current.timestampNs = isNoiseBlank cfg st st.timestampNs := rfl
  rw [if_pos cal, same]
  by_cases blank : isNoiseBlank cfg st st.timestampNs = true
  · rw [if_pos blank]
    simp [blank]
  rw [if_neg blank]
  have clear : isNoiseBlank cfg st st.timestampNs = false := by simpa using blank
  by_cases on : current.noiseState = .on
  · have shown : st.noiseState = .on := on
    rw [if_pos on, accumulate_on_adds, shown]
    simp [valid, clear]
  · have shown : st.noiseState = .off := by
      cases noise : st.noiseState with
      | off => rfl
      | on => exact absurd noise on
    rw [if_neg on, accumulate_off_adds, shown]
    simp [valid, clear]

theorem turn_adds (cal : cfg.calMode = true) (st : GpuPfbFft cfg) (turn : WorkerTurn cfg) (follows : Follows cfg st turn)
    (acc : NoiseState) : accumulate cfg acc ∈ turn.instrs ↔
      turn.ready.currentPfbOutputValid = true ∧ isNoiseBlank cfg turn.ready turn.ready.timestampNs = false ∧
      noiseBit cfg turn = acc := by
  obtain ⟨state, taken, ready, after, instrs⟩ := id follows
  rw [instrs, List.mem_append, or_iff_right (accumulate_not_front cfg acc turn.pair state), stokes_acc_adds cfg cal,
    (noise_step cfg cal st turn follows).1]

end

end SpectralLine
