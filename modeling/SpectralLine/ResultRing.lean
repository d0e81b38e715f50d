import SpectralLine.PfbValidity
import SpectralLine.WorkerRun
import SpectralLine.Lib.FlagRing
import SpectralLine.Lib.Keyed

set_option autoImplicit false

namespace SpectralLine

open Streams Handoff

section

variable {𝕜 : Type} (cfg : GpuConfig 𝕜)

-- The worker, with what it has still to issue, and the sender thread.
-- `reading` holds what the sender read of the slot it observed, `delivered`
-- what it read of each slot it is done with.
structure RingSystem where
  side : ResultSide cfg
  program : List (GpuInstr cfg)
  used : Fin numSlots → Bool
  idx : Fin numSlots
  reading : Option (List (IntegrationResult cfg))
  delivered : List (List (IntegrationResult cfg))

inductive RingChoice where
  | worker
  | observe
  | read
  | clear
deriving DecidableEq

def raiseUsed (used : Fin numSlots → Bool) : GpuInstr cfg → Fin numSlots → Bool
  | .host (.publish slot) => Function.update used slot true
  | _ => used

variable [Field 𝕜]

def ringStep (st : RingSystem cfg) : RingChoice → Option (RingSystem cfg)
  | .worker =>
      match st.program with
      | [] => none
      | i :: rest => some { st with side := execute cfg st.side i, program := rest, used := raiseUsed cfg st.used i }
  | .observe => if st.reading.isNone && st.used st.idx then some { st with reading := some [] } else none
  | .read =>
      match st.reading with
      | none => none
      | some reads => some { st with reading := some (reads ++ [snapshot cfg st.side st.idx]) }
  | .clear =>
      match st.reading with
      | none => none
      | some reads =>
          some { st with
            used := Function.update st.used st.idx false
            idx := nextSlot st.idx
            reading := none
            delivered := st.delivered ++ [reads] }

theorem ring_positive : 0 < numSlots := by decide

def RingSystem.start (program : List (GpuInstr cfg)) : RingSystem cfg :=
  ⟨ResultSide.initial cfg, program, fun _ => false, ⟨0, ring_positive⟩, none, []⟩

inductive RingReachable (guard : RingSystem cfg → RingChoice → Prop) (program : List (GpuInstr cfg)) : RingSystem cfg → Prop
  | start : RingReachable guard program (RingSystem.start cfg program)
  | step (st next : RingSystem cfg) (choice : RingChoice) (before : RingReachable guard program st)
      (taken : ringStep cfg st choice = some next) (allowed : guard st choice) : RingReachable guard program next

def slotTouched : GpuInstr cfg → Option (Fin numSlots)
  | .host (.setFirst slot _) => some slot
  | .host (.setLast slot _) => some slot
  | .host (.setNoise slot _) => some slot
  | .host (.publish slot) => some slot
  | .launch _ (.copyStokes _ slot) => some slot
  | .launch _ (.copySum _ slot) => some slot
  | _ => none

def published : GpuInstr cfg → Nat
  | .host (.publish _) => 1
  | _ => 0

def slotEntry (count : Nat) : Fin numSlots := entry ring_positive count

-- The stores between two publishes go to the slot that is next in the ring.
def Slotted : Nat → List (GpuInstr cfg) → Prop
  | _, [] => True
  | count, i :: rest => (∀ slot, slotTouched cfg i = some slot → slot = slotEntry count) ∧ Slotted (count + published cfg i) rest

def publishes (instrs : List (GpuInstr cfg)) : Nat := (instrs.map (published cfg)).sum

omit [Field 𝕜] in
@[simp] theorem publishes_nil : publishes cfg [] = 0 := rfl

omit [Field 𝕜] in
@[simp] theorem publishes_cons (i : GpuInstr cfg) (rest : List (GpuInstr cfg)) :
    publishes cfg (i :: rest) = published cfg i + publishes cfg rest := by
  rw [publishes, List.map_cons, List.sum_cons, publishes]

omit [Field 𝕜] in
@[simp] theorem publishes_append (xs ys : List (GpuInstr cfg)) :
    publishes cfg (xs ++ ys) = publishes cfg xs + publishes cfg ys := by
  rw [publishes, List.map_append, List.sum_append, publishes, publishes]

omit [Field 𝕜] in
theorem slotted_append (count : Nat) (xs ys : List (GpuInstr cfg)) :
    Slotted cfg count (xs ++ ys) ↔ Slotted cfg count xs ∧ Slotted cfg (count + publishes cfg xs) ys := by
  induction xs generalizing count with
  | nil => simp [Slotted]
  | cons i rest ih => rw [List.cons_append, Slotted, ih, Slotted, and_assoc, publishes_cons, Nat.add_assoc]

omit [Field 𝕜] in
theorem slotted_untouched (count : Nat) (instrs : List (GpuInstr cfg)) (quiet : ∀ i ∈ instrs, slotTouched cfg i = none) :
    Slotted cfg count instrs ∧ publishes cfg instrs = 0 := by
  induction instrs generalizing count with
  | nil => exact ⟨trivial, rfl⟩
  | cons i rest ih =>
      have here := quiet i (List.mem_cons_self ..)
      have none : published cfg i = 0 := by
        unfold published
        split
        · cases here
        · rfl
      obtain ⟨slotted, zero⟩ := ih count fun j member => quiet j (List.mem_cons_of_mem i member)
      refine ⟨⟨fun slot touched => ?_, by rw [none]; exact slotted⟩, ?_⟩
      · rw [here] at touched
        cases touched
      · rw [publishes_cons, none, zero]

theorem next_slot_entry (count : Nat) : nextSlot (slotEntry count) = slotEntry (count + 1) := by
  apply Fin.ext
  simp only [nextSlot, slotEntry, entry, Nat.mod_add_mod]

omit [Field 𝕜] in
theorem expose_slotted (acc : NoiseState) (count : Nat) :
    Slotted cfg count (exposeSlot cfg acc (slotEntry count)) ∧ publishes cfg (exposeSlot cfg acc (slotEntry count)) = 1 := by
  cases mode : cfg.spectral with
  | true => simp [exposeSlot, mode, Slotted, published, slotTouched]
  | false => simp [exposeSlot, mode, Slotted, published, slotTouched]

omit [Field 𝕜] in
theorem accumulate_untouched (acc : NoiseState) :
    slotTouched cfg (accumulate cfg acc) = none ∧ published cfg (accumulate cfg acc) = 0 := by
  cases mode : cfg.spectral with
  | true => simp [accumulate, mode, published, slotTouched]
  | false => simp [accumulate, mode, published, slotTouched]

omit [Field 𝕜] in
theorem cal_publish_slotted (acc : NoiseState) (count first last : Nat) :
    Slotted cfg count (accumulate cfg acc :: calPublish cfg acc (slotEntry count) first last) ∧
    publishes cfg (accumulate cfg acc :: calPublish cfg acc (slotEntry count) first last) = 1 := by
  obtain ⟨exposed, once⟩ := expose_slotted cfg acc count
  obtain ⟨quiet, zero⟩ := accumulate_untouched cfg acc
  have clears := slotted_untouched cfg (count + 1) (clearAccumulators cfg acc) (by simp [clearAccumulators, slotTouched])
  simp only [calPublish, List.append_assoc, slotted_append, Slotted, publishes_cons, publishes_append, quiet, zero, once]
  simp [published, slotTouched, exposed, clears]

-- The state a path leaves and what it issues, for a worker at entry `count`.
def PathSlotted (count : Nat) (path : GpuPfbFft cfg × List (GpuInstr cfg)) : Prop :=
  Slotted cfg count path.2 ∧ path.1.hhead = slotEntry (count + publishes cfg path.2)

omit [Field 𝕜] in
theorem accumulate_on_slotted (st : GpuPfbFft cfg) (count : Nat) (head : st.hhead = slotEntry count) :
    PathSlotted cfg count (accumulateOn cfg st) := by
  obtain ⟨quiet, zero⟩ := accumulate_untouched cfg .on
  unfold accumulateOn
  extract_lets first
  split_ifs
  · obtain ⟨slotted, once⟩ := cal_publish_slotted cfg .on count first st.timestampNs
    rw [← head] at slotted once
    refine ⟨slotted, ?_⟩
    rw [once, ← next_slot_entry, ← head]
  · exact ⟨by simp [Slotted, quiet], by simp [zero, head]⟩

omit [Field 𝕜] in
theorem accumulate_off_slotted (st : GpuPfbFft cfg) (count : Nat) (head : st.hhead = slotEntry count) :
    PathSlotted cfg count (accumulateOff cfg st) := by
  obtain ⟨quiet, zero⟩ := accumulate_untouched cfg .off
  unfold accumulateOff
  extract_lets first
  split_ifs
  · obtain ⟨slotted, once⟩ := cal_publish_slotted cfg .off count first st.timestampNs
    rw [← head] at slotted once
    refine ⟨slotted, ?_⟩
    rw [once, ← next_slot_entry, ← head]
  · exact ⟨by simp [Slotted, quiet], by simp [zero, head]⟩

omit [Field 𝕜] in
theorem accumulate_plain_slotted (st : GpuPfbFft cfg) (count : Nat) (head : st.hhead = slotEntry count) :
    PathSlotted cfg count (accumulatePlain cfg st) := by
  obtain ⟨quiet, zero⟩ := accumulate_untouched cfg .off
  obtain ⟨exposed, once⟩ := expose_slotted cfg .off count
  have start : ∀ instrs : List (GpuInstr cfg),
      instrs = (if st.accId = 0 then [(.host (.setFirst st.hhead st.timestampNs) : GpuInstr cfg)] else []) →
      Slotted cfg count instrs ∧ publishes cfg instrs = 0 := by
    rintro instrs rfl
    split_ifs <;> simp [Slotted, published, slotTouched, head]
  unfold accumulatePlain
  extract_lets first
  obtain ⟨slotted, none⟩ := start first rfl
  split_ifs
  · simp only [PathSlotted, List.append_assoc, slotted_append, slotted, none, Slotted, publishes_cons, publishes_append,
      quiet, zero, head, once]
    simp [published, slotTouched, exposed, next_slot_entry]
  · simp [PathSlotted, slotted_append, slotted, none, Slotted, quiet, zero, head]

omit [Field 𝕜] in
theorem stokes_acc_slotted (st : GpuPfbFft cfg) (count : Nat) (head : st.hhead = slotEntry count) :
    PathSlotted cfg count (stokesAcc cfg st) := by
  have body : PathSlotted cfg count (stokesAccBody cfg st) := by
    cases kind : accKind cfg st with
    | reset =>
        rw [body_reset cfg st kind]
        unfold resetForGap
        split_ifs <;> simp [PathSlotted, Slotted, published, slotTouched, head]
    | skip =>
        rw [body_skip cfg st kind]
        exact ⟨trivial, head⟩
    | add c =>
        rw [body_add cfg st c kind, joinPath]
        split_ifs
        · exact accumulate_on_slotted cfg _ count head
        · exact accumulate_off_slotted cfg _ count head
        · exact accumulate_plain_slotted cfg _ count head
  have waits := slotted_untouched cfg count [.wait .d2h (.pfbDone .A), .wait .d2h (.pfbDone .B)] (by simp [slotTouched])
  have whole : stokesAcc cfg st =
      ((stokesAccBody cfg st).1, [.wait .d2h (.pfbDone .A), .wait .d2h (.pfbDone .B)] ++ (stokesAccBody cfg st).2) := rfl
  rw [PathSlotted, whole, slotted_append, publishes_append, waits.2, Nat.zero_add, Nat.add_zero]
  exact ⟨⟨waits.1, body.1⟩, body.2⟩

omit [Field 𝕜] in
theorem program_slotted (turns : List (WorkerTurn cfg)) (st : GpuPfbFft cfg) (count : Nat) (chain : Chain cfg st turns)
    (head : st.hhead = slotEntry count) : Slotted cfg count (programOf cfg turns) := by
  induction turns generalizing st count with
  | nil => trivial
  | cons turn rest ih =>
      cases chain with
      | cons _ _ _ follows later =>
          obtain ⟨state, taken, ready, after, instrs⟩ := follows
          have keeps := (take_pair_effect cfg st turn.pair state taken).keeps
          have place : turn.ready.hhead = slotEntry count := by
            rw [ready]
            exact keeps.2.1.trans head
          have front := slotted_untouched cfg count (copyInstrs cfg turn.pair ++ (submitPfbFft cfg state).2)
            (by simp [copyInstrs, submitPfbFft, slotTouched])
          generalize copyInstrs cfg turn.pair ++ (submitPfbFft cfg state).2 = submitted at instrs front
          obtain ⟨slotted, next⟩ := stokes_acc_slotted cfg turn.ready count place
          rw [programOf, List.flatMap_cons, slotted_append, instrs, slotted_append, publishes_append, front.2, Nat.add_zero,
            Nat.zero_add]
          rw [← after] at next
          exact ⟨⟨front.1, slotted⟩, ih turn.after _ later next⟩

theorem execute_snapshot (r : ResultSide cfg) (i : GpuInstr cfg) (slot : Fin numSlots)
    (other : slotTouched cfg i ≠ some slot) : snapshot cfg (execute cfg r i) slot = snapshot cfg r slot := by
  have memory : ∀ l, (∀ s op, i = .launch s op → l ≠ DeviceOp.dst op) → (execute cfg r i).memory l = r.memory l := by
    intro l elsewhere
    rw [execute_memory]
    cases i with
    | launch s op => exact exec_elsewhere cfg s op r.memory l (elsewhere s op rfl)
    | record e s => rfl
    | wait s e => rfl
    | synchronize e => rfl
    | host action => rfl
  have data : (execute cfg r i).memory (.slotData slot) = r.memory (.slotData slot) := by
    apply memory
    rintro s op rfl same
    cases op <;> simp_all [DeviceOp.dst, slotTouched]
  have sum : (execute cfg r i).memory (.slotSum slot) = r.memory (.slotSum slot) := by
    apply memory
    rintro s op rfl same
    cases op <;> simp_all [DeviceOp.dst, slotTouched]
  have slots : (execute cfg r i).slots slot = r.slots slot := by
    cases i with
    | launch s op => rfl
    | record e s => rfl
    | wait s e => rfl
    | synchronize e => rfl
    | host action =>
        cases action with
        | setFirst at_ t => exact Function.update_of_ne (fun same => other (by rw [same]; rfl)) _ _
        | setLast at_ t => exact Function.update_of_ne (fun same => other (by rw [same]; rfl)) _ _
        | setNoise at_ noise => exact Function.update_of_ne (fun same => other (by rw [same]; rfl)) _ _
        | publish at_ => rfl
  simp only [snapshot, data, sum, slots]

theorem execute_log (r : ResultSide cfg) (i : GpuInstr cfg) (other : ∀ slot, i ≠ .host (.publish slot)) :
    (execute cfg r i).published = r.published := by
  cases i with
  | launch s op => rfl
  | record e s => rfl
  | wait s e => rfl
  | synchronize e => rfl
  | host action =>
      cases action with
      | setFirst slot t => rfl
      | setLast slot t => rfl
      | setNoise slot noise => rfl
      | publish slot => exact absurd rfl (other slot)

def ringView (st : RingSystem cfg) : FlagRing.State numSlots (IntegrationResult cfg) where
  contents := snapshot cfg st.side
  used := st.used
  idx := st.idx
  reading := st.reading
  log := st.side.published
  delivered := st.delivered

-- The worker stores to a slot only while its flag is down.
def SlotFree (st : RingSystem cfg) (choice : RingChoice) : Prop :=
  choice = .worker → ∀ slot, st.program.head?.bind (slotTouched cfg) = some slot → st.used slot = false

instance : DecidableRel (SlotFree cfg) := fun st choice =>
  inferInstanceAs (Decidable (choice = .worker →
    ∀ slot, st.program.head?.bind (slotTouched cfg) = some slot → st.used slot = false))

theorem handoff_next_slot (slot : Fin numSlots) : Handoff.next slot = nextSlot slot := by
  have reduced : slotEntry slot.val = slot := Fin.ext (Nat.mod_eq_of_lt slot.isLt)
  rw [← reduced, next_slot_entry]
  exact next_entry ring_positive slot.val

theorem worker_step_view (st : RingSystem cfg) (i : GpuInstr cfg) (rest : List (GpuInstr cfg))
    (free : ∀ slot, slotTouched cfg i = some slot → st.used slot = false)
    (place : ∀ slot, slotTouched cfg i = some slot → slot = slotEntry st.side.published.length) :
    let next : RingSystem cfg := { st with side := execute cfg st.side i, program := rest, used := raiseUsed cfg st.used i }
    ringView cfg next = ringView cfg st ∨ ∃ action, FlagRing.step ring_positive (ringView cfg st) action = some (ringView cfg next) := by
  intro next
  by_cases publishing : ∃ slot, i = .host (.publish slot)
  · obtain ⟨slot, rfl⟩ := publishing
    have down := free slot rfl
    obtain rfl := place slot rfl
    refine Or.inr ⟨.publish, ?_⟩
    exact if_neg fun up => Bool.false_ne_true (down.symm.trans up)
  have log := execute_log cfg st.side i fun slot same => publishing ⟨slot, same⟩
  have flags : raiseUsed cfg st.used i = st.used := by
    unfold raiseUsed
    split
    · rename_i slot
      exact absurd ⟨slot, rfl⟩ publishing
    · rfl
  cases touched : slotTouched cfg i with
  | none =>
      refine Or.inl ?_
      have same : snapshot cfg (execute cfg st.side i) = snapshot cfg st.side := by
        funext slot
        exact execute_snapshot cfg st.side i slot (by rw [touched]; simp)
      simp only [ringView, next, same, flags, log]
  | some slot =>
      have down := free slot touched
      obtain rfl := place slot touched
      refine Or.inr ⟨.write (snapshot cfg (execute cfg st.side i) (slotEntry st.side.published.length)), ?_⟩
      have same : snapshot cfg (execute cfg st.side i) = Function.update (snapshot cfg st.side)
          (slotEntry st.side.published.length)
          (snapshot cfg (execute cfg st.side i) (slotEntry st.side.published.length)) := by
        funext slot
        by_cases here : slot = slotEntry st.side.published.length
        · rw [here, Function.update_self]
        · rw [Function.update_of_ne here]
          exact execute_snapshot cfg st.side i slot (by rw [touched]; simpa using Ne.symm here)
      refine (if_neg fun up => Bool.false_ne_true (down.symm.trans up)).trans ?_
      simp only [ringView, next, flags, log, Option.some.injEq]
      rw [same, Function.update_self]
      rfl

theorem ring_step_view (st next : RingSystem cfg) (choice : RingChoice)
    (slotted : Slotted cfg st.side.published.length st.program) (free : SlotFree cfg st choice)
    (taken : ringStep cfg st choice = some next) :
    ringView cfg next = ringView cfg st ∨ ∃ action, FlagRing.step ring_positive (ringView cfg st) action = some (ringView cfg next) := by
  cases choice with
  | worker =>
      cases program : st.program with
      | nil => simp [ringStep, program] at taken
      | cons i rest =>
          rw [program] at slotted
          simp only [ringStep, program, Option.some.injEq] at taken
          subst taken
          exact worker_step_view cfg st i rest (fun slot touched => free rfl slot (by rw [program]; exact touched)) slotted.1
  | observe =>
      cases reading : st.reading with
      | some reads => simp [ringStep, reading] at taken
      | none =>
          cases up : st.used st.idx with
          | false => simp [ringStep, reading, up] at taken
          | true =>
              simp only [ringStep, reading, up, Option.isNone_none, Bool.and_self, if_true, Option.some.injEq] at taken
              subst taken
              exact Or.inr ⟨.observe, if_pos ⟨reading, up⟩⟩
  | read =>
      cases reading : st.reading with
      | none => simp [ringStep, reading] at taken
      | some reads =>
          simp only [ringStep, reading, Option.some.injEq] at taken
          subst taken
          exact Or.inr ⟨.read, by simp [FlagRing.step, ringView, reading]⟩
  | clear =>
      cases reading : st.reading with
      | none => simp [ringStep, reading] at taken
      | some reads =>
          simp only [ringStep, reading, Option.some.injEq] at taken
          subst taken
          refine Or.inr ⟨.clear, ?_⟩
          simp [FlagRing.step, ringView, reading, handoff_next_slot]

theorem execute_published (r : ResultSide cfg) (i : GpuInstr cfg) :
    (execute cfg r i).published.length = r.published.length + published cfg i ∧ r.published <+: (execute cfg r i).published := by
  by_cases publishing : ∃ slot, i = .host (.publish slot)
  · obtain ⟨slot, rfl⟩ := publishing
    exact ⟨List.length_append, List.prefix_append _ _⟩
  · have log := execute_log cfg r i fun slot same => publishing ⟨slot, same⟩
    have none : published cfg i = 0 := by
      unfold published
      split
      · rename_i slot
        exact absurd ⟨slot, rfl⟩ publishing
      · rfl
    rw [log, none]
    exact ⟨rfl, List.prefix_refl _⟩

theorem execute_all_published (instrs : List (GpuInstr cfg)) (r : ResultSide cfg) :
    r.published <+: (executeAll cfg instrs r).published := by
  induction instrs generalizing r with
  | nil => exact List.prefix_refl _
  | cons i rest ih => exact (execute_published cfg r i).2.trans (ih _)

-- What holds of a system in which the worker only stores to free slots.
structure RingInv (program : List (GpuInstr cfg)) (st : RingSystem cfg) : Prop where
  slotted : Slotted cfg st.side.published.length st.program
  sequential : executeAll cfg st.program st.side = executeAll cfg program (ResultSide.initial cfg)
  window : FlagRing.Window ring_positive (ringView cfg st)

theorem ring_step_inv (program : List (GpuInstr cfg)) (st next : RingSystem cfg) (choice : RingChoice)
    (inv : RingInv cfg program st) (free : SlotFree cfg st choice) (taken : ringStep cfg st choice = some next) :
    RingInv cfg program next := by
  have window : FlagRing.Window ring_positive (ringView cfg next) := by
    rcases ring_step_view cfg st next choice inv.slotted free taken with same | ⟨action, step⟩
    · rw [same]
      exact inv.window
    · exact FlagRing.step_window ring_positive _ _ action inv.window step
  cases choice with
  | worker =>
      cases left : st.program with
      | nil => simp [ringStep, left] at taken
      | cons i rest =>
          have slotted := inv.slotted
          have sequential := inv.sequential
          rw [left] at slotted sequential
          simp only [ringStep, left, Option.some.injEq] at taken
          subst taken
          refine ⟨?_, sequential, window⟩
          rw [(execute_published cfg st.side i).1]
          exact slotted.2
  | observe =>
      simp only [ringStep, Option.ite_none_right_eq_some, Option.some.injEq] at taken
      obtain ⟨_, rfl⟩ := taken
      exact ⟨inv.slotted, inv.sequential, window⟩
  | read =>
      cases reading : st.reading with
      | none => simp [ringStep, reading] at taken
      | some reads =>
          simp only [ringStep, reading, Option.some.injEq] at taken
          subst taken
          exact ⟨inv.slotted, inv.sequential, window⟩
  | clear =>
      cases reading : st.reading with
      | none => simp [ringStep, reading] at taken
      | some reads =>
          simp only [ringStep, reading, Option.some.injEq] at taken
          subst taken
          exact ⟨inv.slotted, inv.sequential, window⟩

theorem ring_reachable_inv (turns : List (WorkerTurn cfg)) (chain : Chain cfg (GpuPfbFft.initial cfg) turns)
    (st : RingSystem cfg) (reached : RingReachable cfg (SlotFree cfg) (programOf cfg turns) st) :
    RingInv cfg (programOf cfg turns) st := by
  induction reached with
  | start => exact ⟨program_slotted cfg turns _ 0 chain rfl, rfl, FlagRing.initial_window ring_positive _⟩
  | step st next choice before taken allowed ih => exact ring_step_inv cfg _ st next choice ih allowed taken

-- The kth delivery is the kth result, and that is one integration.
structure RingSafe (turns : List (WorkerTurn cfg)) (st : RingSystem cfg) : Prop where
  delivered : ∀ (k : Nat) (reads : List (IntegrationResult cfg)), st.delivered[k]? = some reads →
    ∃ result, st.side.published[k]? = some result ∧ ∀ s ∈ reads, s = result
  held : ∀ reads, st.reading = some reads → ∃ result, st.side.published[st.delivered.length]? = some result ∧
    snapshot cfg st.side st.idx = result ∧ ∀ s ∈ reads, s = result
  composed : ∃ entries, entries <+: (ledgerOf cfg (turnBlock cfg turns) turns.length).published ∧
    List.Forall₂ (Composes cfg (turnBlock cfg turns)) st.side.published entries ∧
    (∀ entry ∈ entries, Integrated cfg (turnBlock cfg turns) entry turns.length) ∧
    entries.Pairwise Ledger.FinishedBefore ∧ (entries.flatMap Prod.snd).Nodup
  times : ∀ result ∈ st.side.published, result.firstTimestampNs ≤ result.lastTimestampNs

def TimeOrdered (turns : List (WorkerTurn cfg)) : Prop :=
  turns.Pairwise fun earlier later => earlier.ready.timestampNs ≤ later.ready.timestampNs

omit [Field 𝕜] in
theorem time_ordered_at (turns : List (WorkerTurn cfg)) (ordered : TimeOrdered cfg turns) (i j : Nat) (order : i ≤ j)
    (x y : WorkerTurn cfg) (atI : turns[i]? = some x) (atJ : turns[j]? = some y) :
    x.ready.timestampNs ≤ y.ready.timestampNs := by
  obtain ⟨insideI, rfl⟩ := List.getElem?_eq_some_iff.mp atI
  obtain ⟨insideJ, rfl⟩ := List.getElem?_eq_some_iff.mp atJ
  rcases Nat.lt_or_eq_of_le order with before | same
  · exact List.pairwise_iff_getElem.mp ordered i j insideI insideJ before
  · subst same
    exact Nat.le_refl _

theorem composes_ordered (turns : List (WorkerTurn cfg)) (ordered : TimeOrdered cfg turns) (result : IntegrationResult cfg)
    (entry : NoiseState × List Nat) (composes : Composes cfg (turnBlock cfg turns) result entry)
    (integrated : Integrated cfg (turnBlock cfg turns) entry turns.length) :
    result.firstTimestampNs ≤ result.lastTimestampNs := by
  obtain ⟨first, last, head, final, inside, _, members, _⟩ := integrated
  have order : first ≤ last := ((members last).mp (List.mem_of_getLast? final)).1
  have insideFirst : first < turns.length := Nat.lt_of_le_of_lt order inside
  have times := time_ordered_at cfg turns ordered first last order _ _ (List.getElem?_eq_getElem insideFirst)
    (List.getElem?_eq_getElem inside)
  rw [composes.first first head, composes.last last final]
  simpa only [turnBlock, List.getElem?_eq_getElem insideFirst, List.getElem?_eq_getElem inside] using times

-- What has been published so far, against the ledger of the whole run.
theorem published_entries (turns : List (WorkerTurn cfg)) (chain : Chain cfg (GpuPfbFft.initial cfg) turns)
    (st : RingSystem cfg) (inv : RingInv cfg (programOf cfg turns) st) :
    ∃ entries, entries <+: (ledgerOf cfg (turnBlock cfg turns) turns.length).published ∧
      List.Forall₂ (Composes cfg (turnBlock cfg turns)) st.side.published entries := by
  have accounts := (run_accounts cfg turns chain turns.length (Nat.le_refl _)).published
  rw [List.take_length, ← inv.sequential] at accounts
  obtain ⟨later, whole⟩ := execute_all_published cfg st.program st.side
  have taken := List.forall₂_take st.side.published.length accounts
  rw [← whole, List.take_left] at taken
  exact ⟨_, List.take_prefix _ _, taken⟩

theorem ring_safety (turns : List (WorkerTurn cfg)) (chain : Chain cfg (GpuPfbFft.initial cfg) turns)
    (ordered : TimeOrdered cfg turns) (st : RingSystem cfg)
    (reached : RingReachable cfg (SlotFree cfg) (programOf cfg turns) st) : RingSafe cfg turns st := by
  have inv := ring_reachable_inv cfg turns chain st reached
  have window := inv.window
  obtain ⟨entries, early, matched⟩ := published_entries cfg turns chain st inv
  have integrated : ∀ entry ∈ entries, Integrated cfg (turnBlock cfg turns) entry turns.length :=
    fun entry member => published_integrated cfg _ _ entry (early.subset member)
  refine ⟨?_, ?_, ⟨entries, early, matched, integrated, ?_, ?_⟩, ?_⟩
  · intro k reads found
    have bound : k < st.delivered.length := (List.getElem?_eq_some_iff.mp found).1
    have inside : k < st.side.published.length := Nat.lt_of_lt_of_le bound window.order
    refine ⟨_, List.getElem?_eq_getElem inside, fun s member => ?_⟩
    have same := window.past k reads found s member
    rw [ringView, List.getElem?_eq_getElem inside] at same
    exact (Option.some.inj same).symm
  · intro reads reading
    obtain ⟨waiting, all⟩ := window.busy reads reading
    have kept := window.kept st.delivered.length (Nat.le_refl _) waiting
    refine ⟨_, kept, congrArg (snapshot cfg st.side) window.idx, fun s member => ?_⟩
    exact Option.some.inj ((all s member).symm.trans kept)
  · exact (Ledger.run_finished cfg.accLen _ cfg.accLenPos turns.length).sublist early.sublist
  · exact ((ledger_balanced cfg _ turns.length).once).sublist (early.sublist.flatMap _)
  · intro result member
    obtain ⟨past, later, split⟩ := List.append_of_mem member
    rw [split] at matched
    obtain ⟨before, entry, after, listed, composes, _⟩ := Keyed.matched_split past result later entries matched
    exact composes_ordered cfg turns ordered result entry composes (integrated entry (by rw [listed]; simp))

-- A given schedule, as long as every step meets the guard.
def runChoices (guard : RingSystem cfg → RingChoice → Prop) [DecidableRel guard] (st : RingSystem cfg) (choices : List RingChoice) :
    Option (RingSystem cfg) :=
  choices.foldlM (fun st choice => if guard st choice then ringStep cfg st choice else none) st

theorem run_choices_reachable (guard : RingSystem cfg → RingChoice → Prop) [DecidableRel guard] (program : List (GpuInstr cfg))
    (st last : RingSystem cfg) (choices : List RingChoice) (before : RingReachable cfg guard program st)
    (done : runChoices cfg guard st choices = some last) : RingReachable cfg guard program last := by
  induction choices generalizing st with
  | nil =>
      cases done
      exact before
  | cons choice rest ih =>
      rw [runChoices, List.foldlM_cons] at done
      by_cases allowed : guard st choice
      · cases taken : ringStep cfg st choice with
        | none => simp [allowed, taken] at done
        | some next =>
            simp only [allowed, taken, if_true, Option.bind_eq_bind, Option.bind_some] at done
            exact ih next (RingReachable.step st next choice before taken allowed) done
      · simp [allowed] at done

end

-- Complete batches in continuum mode, each an integration of its own.
def laggingGpu : GpuConfig ℚ := { sampleGpu with accLen := 1, accLenPos := Nat.one_pos, spectral := false }

def laggingPair (batchId : Nat) : Aligned laggingGpu :=
  let batch : PacketBatch laggingGpu.batchsize :=
    { allocatePacketBatch laggingGpu.batchsize with
      batchId := batchId
      valid := true
      hdrs := fun _ => VDIF.zero.setPacketId batchId }
  ⟨batch, batch, false, [], []⟩

def laggingTurns (count : Nat) : List (WorkerTurn laggingGpu) :=
  pairTurns laggingGpu (GpuPfbFft.initial laggingGpu) ((List.range count).map laggingPair)

theorem lagging_ordered : TimeOrdered laggingGpu (laggingTurns 20) := by
  unfold TimeOrdered
  decide +kernel

def deliveredTimes (st : RingSystem laggingGpu) : List (List Nat) :=
  st.delivered.map fun reads => reads.map IntegrationResult.firstTimestampNs

-- A sender that takes the first result while the worker goes on.
def promptChoices : List RingChoice :=
  List.replicate 125 .worker ++ [.observe, .read] ++ List.replicate 10 .worker ++ [.read, .clear]

theorem ring_safety_sample : ∃ st : RingSystem laggingGpu,
    deliveredTimes st = [[946684800000048000, 946684800000048000]] ∧ RingSafe laggingGpu (laggingTurns 20) st := by
  have run : (runChoices laggingGpu (SlotFree laggingGpu)
      (RingSystem.start laggingGpu (programOf laggingGpu (laggingTurns 20))) promptChoices).map deliveredTimes =
      some [[946684800000048000, 946684800000048000]] := by decide +kernel
  obtain ⟨st, reached, times⟩ := Option.map_eq_some_iff.mp run
  exact ⟨st, times, ring_safety laggingGpu _ (pair_turns_chain laggingGpu _ _) lagging_ordered st
    (run_choices_reachable laggingGpu _ _ _ st _ RingReachable.start reached)⟩

-- A sender that observes slot 0 and then stays behind until the worker has
-- started the seventeenth integration.
def laggingChoices : List RingChoice :=
  List.replicate 618 .worker ++ [.observe, .read] ++ List.replicate 25 .worker ++ [.read, .clear]

theorem ring_safety_fails : ¬ ∀ (turns : List (WorkerTurn laggingGpu)) (st : RingSystem laggingGpu),
    Chain laggingGpu (GpuPfbFft.initial laggingGpu) turns → TimeOrdered laggingGpu turns →
    RingReachable laggingGpu (fun _ _ => True) (programOf laggingGpu turns) st → RingSafe laggingGpu turns st := by
  intro always
  have run : (runChoices laggingGpu (fun _ _ => True)
      (RingSystem.start laggingGpu (programOf laggingGpu (laggingTurns 20))) laggingChoices).map deliveredTimes =
      some [[946684800000048000, 946684800000304000]] := by decide +kernel
  obtain ⟨st, reached, times⟩ := Option.map_eq_some_iff.mp run
  have safe := always (laggingTurns 20) st (pair_turns_chain laggingGpu _ _) lagging_ordered
    (run_choices_reachable laggingGpu _ _ _ st _ RingReachable.start reached)
  rw [deliveredTimes] at times
  cases delivered : st.delivered with
  | nil =>
      rw [delivered] at times
      cases times
  | cons reads rest =>
      obtain ⟨result, _, same⟩ := safe.delivered 0 reads (by rw [delivered]; rfl)
      rw [delivered, List.map_cons] at times
      have pair := (List.cons.inj times).1
      have uniform : ∀ t ∈ reads.map IntegrationResult.firstTimestampNs, t = result.firstTimestampNs := by
        intro t member
        obtain ⟨one, inside, rfl⟩ := List.mem_map.mp member
        rw [same one inside]
      rw [pair] at uniform
      have early := uniform 946684800000048000 (List.mem_cons_self ..)
      have late := uniform 946684800000304000 (List.mem_cons_of_mem _ (List.mem_cons_self ..))
      rw [← early] at late
      cases late

end SpectralLine
