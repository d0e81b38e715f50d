import SpectralLine.Integration

set_option autoImplicit false

namespace SpectralLine

open Streams

section

variable {𝕜 : Type} [Field 𝕜] (cfg : GpuConfig 𝕜)

def turnBlock (turns : List (WorkerTurn cfg)) (i : Nat) : ProcessedBlock cfg :=
  match turns[i]? with
  | some turn =>
      { outputValid := turn.ready.currentPfbOutputValid
        noiseState := turn.ready.noiseState
        noiseCycleStartNs := turn.ready.noiseCycleStartNs
        timestampNs := turn.ready.timestampNs
        A := execAll (gpuDevice cfg) (programOf cfg (turns.take (i + 1))) (initialMemory cfg) (.ffted .A)
        B := execAll (gpuDevice cfg) (programOf cfg (turns.take (i + 1))) (initialMemory cfg) (.ffted .B) }
  | none => ⟨false, .off, 0, 0, fun _ => ⟨0, 0⟩, fun _ => ⟨0, 0⟩⟩

omit [Field 𝕜] in
theorem front_quiet (pair : Aligned cfg) (st : GpuPfbFft cfg) (action : SlotAction) :
    Instr.host action ∉ copyInstrs cfg pair ++ (submitPfbFft cfg st).2 := by
  simp [copyInstrs, submitPfbFft]

theorem front_accounts (blocks : Nat → ProcessedBlock cfg) (ledger : Ledger.State NoiseState) (st : GpuPfbFft cfg)
    (r : ResultSide cfg) (turn : WorkerTurn cfg) (state : GpuPfbFft cfg) (taken : takePair cfg st turn.pair = .ok state)
    (ready : turn.ready = (submitPfbFft cfg state).1) (accounts : Accounts cfg blocks ledger st r) :
    Accounts cfg blocks ledger turn.ready (executeAll cfg (copyInstrs cfg turn.pair ++ (submitPfbFft cfg state).2) r) := by
  have keeps := (take_pair_effect cfg st turn.pair state taken).keeps
  have front := front_effect cfg turn.pair state r.memory
  rw [execute_all_quiet cfg _ r (front_quiet cfg turn.pair state), ready]
  obtain ⟨_, hhead, accId, accOnId, accOffId, onFirst, offFirst, gap⟩ := keeps
  refine accounts_untouched cfg blocks ledger st _ r _ accounts (fun c => ?_) gap rfl
  cases c with
  | on => exact ⟨accOnId, onFirst, front.rest (.stokes .on) id, front.rest (.sumPower .on) id⟩
  | off =>
      refine ⟨?_, ?_, front.rest (.stokes .off) id, front.rest (.sumPower .off) id⟩
      · simp only [accCount, submitPfbFft, accId, accOffId]
      · simp only [accFirst, submitPfbFft, offFirst, hhead]

theorem execute_turn (turn : WorkerTurn cfg) (state : GpuPfbFft cfg) (r : ResultSide cfg)
    (instrs : turn.instrs = copyInstrs cfg turn.pair ++ (submitPfbFft cfg state).2 ++ (stokesAcc cfg turn.ready).2) :
    executeAll cfg turn.instrs r =
      accExec cfg turn.ready (executeAll cfg (copyInstrs cfg turn.pair ++ (submitPfbFft cfg state).2) r) := by
  rw [instrs, execute_all_append, accExec]

-- StokesAcc leaves what the front of its turn has computed.
theorem turn_shown (turns : List (WorkerTurn cfg)) (count : Nat) (here : count < turns.length) (state : GpuPfbFft cfg)
    (instrs : turns[count].instrs =
      copyInstrs cfg turns[count].pair ++ (submitPfbFft cfg state).2 ++ (stokesAcc cfg turns[count].ready).2)
    (l : Loc) (front : Front l) :
    execAll (gpuDevice cfg) (programOf cfg (turns.take (count + 1))) (initialMemory cfg) l =
      execAll (gpuDevice cfg) (copyInstrs cfg turns[count].pair ++ (submitPfbFft cfg state).2)
        (execAll (gpuDevice cfg) (programOf cfg (turns.take count)) (initialMemory cfg)) l := by
  have longer : turns.take (count + 1) = turns.take count ++ [turns[count]] := (List.take_concat_get' turns count here).symm
  rw [longer, programOf, List.flatMap_append, List.flatMap_singleton, exec_all_append, instrs, exec_all_append]
  exact stokes_acc_front cfg turns[count].ready _ l front

-- Every prefix of a run keeps the accounts of its blocks.
theorem run_accounts (turns : List (WorkerTurn cfg)) (chain : Chain cfg (GpuPfbFft.initial cfg) turns) (count : Nat)
    (inside : count ≤ turns.length) :
    Accounts cfg (turnBlock cfg turns) (ledgerOf cfg (turnBlock cfg turns) count)
      (stateAfter cfg (GpuPfbFft.initial cfg) (turns.take count))
      (executeAll cfg (programOf cfg (turns.take count)) (ResultSide.initial cfg)) := by
  induction count with
  | zero => exact initial_accounts cfg (turnBlock cfg turns)
  | succ count ih =>
      have here : count < turns.length := inside
      have accounts := ih (Nat.le_of_lt here)
      have split : turns = turns.take count ++ turns[count] :: turns.drop (count + 1) := by
        rw [List.getElem_cons_drop, List.take_append_drop]
      have follows := (chain_split cfg _ _ _ _ (split ▸ chain)).2.1
      have longer : turns.take (count + 1) = turns.take count ++ [turns[count]] := (List.take_concat_get' turns count here).symm
      have block : turnBlock cfg turns count = {
          outputValid := turns[count].ready.currentPfbOutputValid
          noiseState := turns[count].ready.noiseState
          noiseCycleStartNs := turns[count].ready.noiseCycleStartNs
          timestampNs := turns[count].ready.timestampNs
          A := execAll (gpuDevice cfg) (programOf cfg (turns.take (count + 1))) (initialMemory cfg) (.ffted .A)
          B := execAll (gpuDevice cfg) (programOf cfg (turns.take (count + 1))) (initialMemory cfg) (.ffted .B) } := by
        simp only [turnBlock, List.getElem?_eq_getElem here]
      have after : stateAfter cfg (GpuPfbFft.initial cfg) (turns.take (count + 1)) = turns[count].after := by
        rw [longer, stateAfter, List.foldl_append]
        rfl
      obtain ⟨state, taken, ready, done, instrs⟩ := follows
      have executed : ∀ r, executeAll cfg (programOf cfg (turns.take (count + 1))) r =
          executeAll cfg turns[count].instrs (executeAll cfg (programOf cfg (turns.take count)) r) := by
        intro r
        rw [longer, programOf, List.flatMap_append, List.flatMap_singleton, execute_all_append]
        rfl
      have shown : ∀ p, execAll (gpuDevice cfg) (programOf cfg (turns.take (count + 1))) (initialMemory cfg) (.ffted p) =
          (executeAll cfg (copyInstrs cfg turns[count].pair ++ (submitPfbFft cfg state).2)
            (executeAll cfg (programOf cfg (turns.take count)) (ResultSide.initial cfg))).memory (.ffted p) := by
        intro p
        rw [turn_shown cfg turns count here state instrs (.ffted p) trivial, execute_all_memory, execute_all_memory]
        rfl
      have loaded := front_accounts cfg _ _ _ _ turns[count] state taken ready accounts
      have presents : Presents cfg (turnBlock cfg turns (ledgerOf cfg (turnBlock cfg turns) count).seen) turns[count].ready
          (executeAll cfg (copyInstrs cfg turns[count].pair ++ (submitPfbFft cfg state).2)
            (executeAll cfg (programOf cfg (turns.take count)) (ResultSide.initial cfg))) := by
        rw [ledger_seen, block]
        exact ⟨rfl, (shown .A).symm, (shown .B).symm⟩
      have next := acc_step cfg _ _ _ _ loaded presents
      rw [ledger_seen] at next
      rw [after, done, executed, execute_turn cfg _ state _ instrs]
      exact next

omit [Field 𝕜] in
theorem turn_follows (turns : List (WorkerTurn cfg)) (st : GpuPfbFft cfg) (chain : Chain cfg st turns) (i : Nat)
    (turn : WorkerTurn cfg) (found : turns[i]? = some turn) : ∃ before, Follows cfg before turn := by
  obtain ⟨inside, rfl⟩ := List.getElem?_eq_some_iff.mp found
  have split : turns = turns.take i ++ turns[i] :: turns.drop (i + 1) := by
    rw [List.getElem_cons_drop, List.take_append_drop]
  exact ⟨_, (chain_split cfg st _ _ _ (split ▸ chain)).2.1⟩

omit [Field 𝕜] in
theorem turn_timestamp (turns : List (WorkerTurn cfg)) (st : GpuPfbFft cfg) (chain : Chain cfg st turns) (i : Nat)
    (turn : WorkerTurn cfg) (found : turns[i]? = some turn) :
    blockTimestampNs cfg turn.pair.batchA = .ok turn.ready.timestampNs := by
  obtain ⟨before, state, taken, ready, _⟩ := turn_follows cfg turns st chain i turn found
  rw [ready]
  exact (take_pair_effect cfg before turn.pair state taken).timestamp

end

end SpectralLine
