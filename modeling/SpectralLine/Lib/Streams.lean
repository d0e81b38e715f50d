import Mathlib.Data.List.Basic
import Mathlib.Logic.Function.Basic

set_option autoImplicit false

namespace Streams

universe u v

-- An operation writes one location, from the locations it reads.
structure Device (Op Loc : Type) (Val : Loc → Type u) where
  dst : Op → Loc
  reads : Op → Loc → Prop
  value : (op : Op) → ((l : Loc) → Val l) → Val (dst op)
  local_value : ∀ op (m n : (l : Loc) → Val l), (∀ l, reads op l → m l = n l) → value op m = value op n

-- What the host issues: work for a stream, or a point where it waits itself.
inductive Instr (Stream Event Op Host : Type) where
  | launch (stream : Stream) (op : Op)
  | record (event : Event) (stream : Stream)
  | wait (stream : Stream) (event : Event)
  | synchronize (event : Event)
  | host (action : Host)

namespace Instr

variable {Stream Event Op Host : Type}

def stream : Instr Stream Event Op Host → Option Stream
  | launch s _ => some s
  | record _ s => some s
  | wait s _ => some s
  | synchronize _ => none
  | host _ => none

def records [DecidableEq Event] (event : Event) : Instr Stream Event Op Host → Bool
  | record e _ => e = event
  | _ => false

end Instr

section

variable {Stream Event Op Host Loc : Type} {Val : Loc → Type u} [DecidableEq Loc]
variable (device : Device Op Loc Val)

abbrev Program (Stream Event Op Host : Type) := List (Instr Stream Event Op Host)

def Device.exec (op : Op) (m : (l : Loc) → Val l) : (l : Loc) → Val l :=
  Function.update m (device.dst op) (device.value op m)

def execInstr (i : Instr Stream Event Op Host) (m : (l : Loc) → Val l) : (l : Loc) → Val l :=
  match i with
  | .launch _ op => device.exec op m
  | _ => m

-- The fully sequential execution.
def execAll (prog : Program Stream Event Op Host) (m : (l : Loc) → Val l) : (l : Loc) → Val l :=
  prog.foldl (fun m i => execInstr device i m) m

theorem exec_all_append (xs ys : Program Stream Event Op Host) (m : (l : Loc) → Val l) :
    execAll device (xs ++ ys) m = execAll device ys (execAll device xs m) := List.foldl_append

theorem exec_all_cons (i : Instr Stream Event Op Host) (rest : Program Stream Event Op Host) (m : (l : Loc) → Val l) :
    execAll device (i :: rest) m = execAll device rest (execInstr device i m) := rfl

variable [DecidableEq Event]

-- The latest record of an event among the first `count` instructions.
def lastRecord (prog : Program Stream Event Op Host) (event : Event) : Nat → Option Nat
  | 0 => none
  | count + 1 =>
      match prog[count]? with
      | some i => if i.records event then some count else lastRecord prog event count
      | none => lastRecord prog event count

theorem last_record_after (prog : Program Stream Event Op Host) (event : Event) (count r : Nat)
    (i : Instr Stream Event Op Host) (found : prog[r]? = some i) (records : i.records event = true) (before : r < count) :
    ∃ latest, lastRecord prog event count = some latest ∧ r ≤ latest ∧
      ∃ j, prog[latest]? = some j ∧ j.records event = true := by
  induction count with
  | zero => omega
  | succ count ih =>
      by_cases same : r = count
      · subst same
        exact ⟨r, by simp [lastRecord, found, records], Nat.le_refl _, i, found, records⟩
      · obtain ⟨latest, earlier, above, rest⟩ := ih (by omega)
        cases current : prog[count]? with
        | none => exact ⟨latest, by simp [lastRecord, current, earlier], above, rest⟩
        | some j =>
            by_cases again : j.records event = true
            · exact ⟨count, by simp [lastRecord, current, again], by omega, j, current, again⟩
            · exact ⟨latest, by simp [lastRecord, current, again, earlier], above, rest⟩

-- Streams are FIFO queues and otherwise unordered. Instructions are named by
-- their place in the program; `executed` lists those that have run.
structure State (Val : Loc → Type u) where
  issued : Nat
  executed : List Nat
  memory : (l : Loc) → Val l

variable (prog : Program Stream Event Op Host)

inductive Step (guard : State Val → Nat → Prop) : State Val → State Val → Prop
  | issue (st : State Val) (i : Instr Stream Event Op Host) (found : prog[st.issued]? = some i)
      (free : ∀ e r, i = .synchronize e → lastRecord prog e st.issued = some r → r ∈ st.executed) :
      Step guard st { st with issued := st.issued + 1 }
  | run (st : State Val) (k : Nat) (i : Instr Stream Event Op Host) (s : Stream) (found : prog[k]? = some i)
      (onStream : i.stream = some s) (issued : k < st.issued) (fresh : k ∉ st.executed)
      (front : ∀ j earlier, j < k → prog[j]? = some earlier → earlier.stream = some s → j ∈ st.executed)
      (ready : ∀ t e r, i = .wait t e → lastRecord prog e k = some r → r ∈ st.executed)
      (allowed : guard st k) :
      Step guard st { st with executed := st.executed ++ [k], memory := execInstr device i st.memory }

inductive Reachable (guard : State Val → Nat → Prop) (first : (l : Loc) → Val l) : State Val → Prop
  | start : Reachable guard first ⟨0, [], first⟩
  | step (st next : State Val) (before : Reachable guard first st) (taken : Step device prog guard st next) :
      Reachable guard first next

-- What the rules guarantee of any reachable state.
structure Closed (st : State Val) : Prop where
  issued : ∀ k ∈ st.executed, k < st.issued
  fifo : ∀ k ∈ st.executed, ∀ j i earlier s, j < k → prog[k]? = some i → i.stream = some s →
    prog[j]? = some earlier → earlier.stream = some s → j ∈ st.executed
  waited : ∀ k ∈ st.executed, ∀ t e r, prog[k]? = some (.wait t e) → lastRecord prog e k = some r → r ∈ st.executed
  synchronized : ∀ k < st.issued, ∀ e r, prog[k]? = some (.synchronize e) → lastRecord prog e k = some r →
    r ∈ st.executed

theorem step_closed (guard : State Val → Nat → Prop) (st next : State Val) (closed : Closed prog st)
    (taken : Step device prog guard st next) : Closed prog next := by
  cases taken with
  | issue i found free =>
      refine ⟨fun k member => Nat.lt_succ_of_lt (closed.issued k member), closed.fifo, closed.waited, ?_⟩
      intro k below e r at_ last
      by_cases same : k = st.issued
      · subst same
        rw [found] at at_
        exact free e r (Option.some.inj at_) last
      · exact closed.synchronized k (by change k < st.issued + 1 at below; omega) e r at_ last
  | run k i s found onStream issued fresh front ready allowed =>
      refine ⟨?_, ?_, ?_, ?_⟩
      · intro j member
        rcases List.mem_append.mp member with old | new
        · exact closed.issued j old
        · rw [List.mem_singleton.mp new]
          exact issued
      · intro j member earlier x y t before atJ streamJ atE streamE
        apply List.mem_append_left
        rcases List.mem_append.mp member with old | new
        · exact closed.fifo j old earlier x y t before atJ streamJ atE streamE
        · rw [List.mem_singleton.mp new] at before atJ
          rw [found] at atJ
          rw [← Option.some.inj atJ, onStream] at streamJ
          exact front earlier y before atE (by rw [streamE, Option.some.inj streamJ])
      · intro j member t e r atJ last
        apply List.mem_append_left
        rcases List.mem_append.mp member with old | new
        · exact closed.waited j old t e r atJ last
        · rw [List.mem_singleton.mp new] at atJ last
          rw [found] at atJ
          exact ready t e r (Option.some.inj atJ) last
      · intro j below e r atJ last
        exact List.mem_append_left _ (closed.synchronized j below e r atJ last)

theorem reachable_closed (guard : State Val → Nat → Prop) (first : (l : Loc) → Val l) (st : State Val)
    (reached : Reachable device prog guard first st) : Closed prog st := by
  induction reached with
  | start => exact ⟨by simp, by simp, by simp, by simp⟩
  | step st next before taken ih => exact step_closed device prog guard st next ih taken

variable (first : (l : Loc) → Val l)

def seqMemory (k : Nat) : (l : Loc) → Val l := execAll device (prog.take k) first

def Writes (k : Nat) (l : Loc) : Prop := ∃ s op, prog[k]? = some (.launch s op) ∧ device.dst op = l

def Touches (k : Nat) (l : Loc) : Prop :=
  ∃ s op, prog[k]? = some (.launch s op) ∧ (device.dst op = l ∨ device.reads op l)

def Conflict (i j : Nat) : Prop :=
  ∃ l, (Writes device prog i l ∧ Touches device prog j l) ∨ (Touches device prog i l ∧ Writes device prog j l)

-- Conflicting operations run in program order.
def Ordered (st : State Val) : Prop :=
  ∀ i j, i < j → Conflict device prog i j → j ∈ st.executed → i ∈ st.executed

omit [DecidableEq Event] [DecidableEq Loc] in
theorem writes_touches (k : Nat) (l : Loc) (writes : Writes device prog k l) : Touches device prog k l := by
  obtain ⟨s, op, found, same⟩ := writes
  exact ⟨s, op, found, Or.inl same⟩

omit [DecidableEq Event] in
theorem seq_memory_succ (k : Nat) (i : Instr Stream Event Op Host) (found : prog[k]? = some i) :
    seqMemory device prog first (k + 1) = execInstr device i (seqMemory device prog first k) := by
  rw [seqMemory, List.take_add_one, found, exec_all_append]
  rfl

omit [DecidableEq Event] in
theorem seq_memory_quiet (l : Loc) (a b : Nat) (order : a ≤ b) (quiet : ∀ k, a ≤ k → k < b → ¬ Writes device prog k l) :
    seqMemory device prog first b l = seqMemory device prog first a l := by
  induction order with
  | refl => rfl
  | @step b above ih =>
      rw [← ih fun k low high => quiet k low (Nat.lt_succ_of_lt high)]
      cases found : prog[b]? with
      | none => rw [seqMemory, List.take_add_one, found, exec_all_append]; rfl
      | some i =>
          rw [Nat.succ_eq_add_one, seq_memory_succ device prog first b i found]
          cases i with
          | launch s op =>
              have other : l ≠ device.dst op := fun same => quiet b above (Nat.lt_succ_self b) ⟨s, op, found, same.symm⟩
              exact Function.update_of_ne other _ _
          | _ => rfl

-- A location holds the sequential value at any cut of the program that the
-- executed writers of the location agree with.
def Tracks (st : State Val) : Prop :=
  ∀ l k, (∀ i < k, Writes device prog i l → i ∈ st.executed) → (∀ i ∈ st.executed, Writes device prog i l → i < k) →
    st.memory l = seqMemory device prog first k l

-- What a running operation touches is as in the sequential execution.
omit [DecidableEq Event] in
theorem touched_sequential (st : State Val) (k : Nat) (tracks : Tracks device prog first st) (fresh : k ∉ st.executed)
    (past : Ordered device prog st) (now : ∀ i < k, Conflict device prog i k → i ∈ st.executed) (l : Loc)
    (touches : Touches device prog k l) : st.memory l = seqMemory device prog first k l := by
  apply tracks
  · intro i before writes
    exact now i before ⟨l, Or.inl ⟨writes, touches⟩⟩
  · intro i member writes
    rcases Nat.lt_trichotomy i k with before | same | after
    · exact before
    · exact absurd (same ▸ member) fresh
    · exact absurd (past k i after ⟨l, Or.inr ⟨touches, writes⟩⟩ member) fresh

omit [DecidableEq Event] in
theorem launch_tracks (st : State Val) (k : Nat) (s : Stream) (op : Op) (found : prog[k]? = some (.launch s op))
    (tracks : Tracks device prog first st) (fresh : k ∉ st.executed) (past : Ordered device prog st)
    (now : ∀ i < k, Conflict device prog i k → i ∈ st.executed) :
    Tracks device prog first { st with executed := st.executed ++ [k], memory := device.exec op st.memory } := by
  have touched := touched_sequential device prog first st k tracks fresh past now
  have value : device.value op st.memory = device.value op (seqMemory device prog first k) :=
    device.local_value op _ _ fun l reads => touched l ⟨s, op, found, Or.inr reads⟩
  intro l cut before after
  by_cases written : l = device.dst op
  · subst written
    have inside : k < cut := after k (by simp) ⟨s, op, found, rfl⟩
    have quiet : ∀ i, k + 1 ≤ i → i < cut → ¬ Writes device prog i (device.dst op) := by
      intro i low high writes
      rcases List.mem_append.mp (before i high writes) with old | new
      · exact fresh (past k i low ⟨_, Or.inl ⟨⟨s, op, found, rfl⟩, writes_touches device prog i _ writes⟩⟩ old)
      · have same := List.mem_singleton.mp new
        omega
    rw [seq_memory_quiet device prog first _ (k + 1) cut inside quiet, seq_memory_succ device prog first k _ found]
    simp only [Device.exec, execInstr, Function.update_self]
    exact value
  · have elsewhere : ∀ i, Writes device prog i l → i ≠ k := by
      rintro i ⟨t, other, at_, target⟩ rfl
      rw [found] at at_
      cases Option.some.inj at_
      exact written target.symm
    have same : device.exec op st.memory l = st.memory l := Function.update_of_ne written _ _
    change device.exec op st.memory l = _
    rw [same]
    apply tracks
    · intro i low writes
      rcases List.mem_append.mp (before i low writes) with old | new
      · exact old
      · exact absurd (List.mem_singleton.mp new) (elsewhere i writes)
    · intro i member writes
      exact after i (List.mem_append_left _ member) writes

omit [DecidableEq Event] in
theorem other_tracks (st : State Val) (k : Nat) (i : Instr Stream Event Op Host) (found : prog[k]? = some i)
    (idle : ∀ s op, i ≠ .launch s op) (tracks : Tracks device prog first st) :
    Tracks device prog first { st with executed := st.executed ++ [k] } := by
  intro l cut before after
  apply tracks
  · intro j low writes
    rcases List.mem_append.mp (before j low writes) with old | new
    · exact old
    · obtain ⟨s, op, at_, _⟩ := writes
      rw [List.mem_singleton.mp new, found] at at_
      exact absurd (Option.some.inj at_) (idle s op)
  · intro j member writes
    exact after j (List.mem_append_left _ member) writes

theorem reachable_tracks (guard : State Val → Nat → Prop)
    (ordered : ∀ st, Reachable device prog guard first st → Ordered device prog st) (st : State Val)
    (reached : Reachable device prog guard first st) : Tracks device prog first st := by
  induction reached with
  | start =>
      intro l cut before _
      refine (seq_memory_quiet device prog first l 0 cut (Nat.zero_le _) ?_).symm
      intro k _ high writes
      exact absurd (before k high writes) List.not_mem_nil
  | step st next before taken ih =>
      have after := ordered next (Reachable.step st next before taken)
      have past := ordered st before
      cases taken with
      | issue i found free => exact ih
      | run k i s found onStream issued fresh front ready allowed =>
          have now : ∀ j < k, Conflict device prog j k → j ∈ st.executed := by
            intro j low conflict
            rcases List.mem_append.mp (after j k low conflict (by simp)) with old | new
            · exact old
            · have same := List.mem_singleton.mp new
              omega
          cases i with
          | launch t op => exact launch_tracks device prog first st k t op found ih fresh past now
          | record e t => exact other_tracks device prog first st k _ found (by simp) ih
          | wait t e => exact other_tracks device prog first st k _ found (by simp) ih
          | synchronize e => exact other_tracks device prog first st k _ found (by simp) ih
          | host action => exact other_tracks device prog first st k _ found (by simp) ih

-- What an operation finds when it runs is what it finds in program order.
theorem run_reads (guard : State Val → Nat → Prop)
    (ordered : ∀ st, Reachable device prog guard first st → Ordered device prog st) (st next : State Val) (k : Nat)
    (reached : Reachable device prog guard first st) (taken : Step device prog guard st next)
    (ran : next.executed = st.executed ++ [k]) (l : Loc) (touches : Touches device prog k l) :
    st.memory l = seqMemory device prog first k l := by
  have after := ordered next (Reachable.step st next reached taken)
  have tracks := reachable_tracks device prog first guard ordered st reached
  have fresh : k ∉ st.executed := by
    cases taken with
    | issue i found free =>
        have longer := congrArg List.length ran
        simp at longer
    | run j i s found onStream issued fresh front ready allowed =>
        have same : j = k := by simpa using ran
        rw [← same]
        exact fresh
  refine touched_sequential device prog first st k tracks fresh (ordered st reached) ?_ l touches
  intro j low conflict
  have member := after j k low conflict (by rw [ran]; simp)
  rw [ran] at member
  rcases List.mem_append.mp member with old | new
  · exact old
  · have same := List.mem_singleton.mp new
    omega

-- A guard that holds a place back until those it names have run.
def Drained (holds : Nat → Nat → Prop) (st : State Val) (k : Nat) : Prop := ∀ j < k, holds j k → j ∈ st.executed

instance (holds : Nat → Nat → Prop) [DecidableRel holds] : DecidableRel (Drained holds : State Val → Nat → Prop) := fun st k =>
  inferInstanceAs (Decidable (∀ j < k, holds j k → j ∈ st.executed))

theorem reachable_drained (holds : Nat → Nat → Prop) (st : State Val)
    (reached : Reachable device prog (Drained holds) first st) :
    ∀ k ∈ st.executed, ∀ j < k, holds j k → j ∈ st.executed := by
  induction reached with
  | start => exact fun k member => absurd member List.not_mem_nil
  | step st next before taken ih =>
      cases taken with
      | issue i found free => exact ih
      | run k i s found onStream issued fresh front ready allowed =>
          intro j member i below held
          apply List.mem_append_left
          rcases List.mem_append.mp member with old | new
          · exact ih j old i below held
          · rw [List.mem_singleton.mp new] at below held
            exact allowed i below held

-- Once everything has run the memory is that of the sequential execution.
omit [DecidableEq Event] in
theorem finished_sequential (st : State Val) (tracks : Tracks device prog first st)
    (finished : ∀ (k : Nat) (s : Stream) (op : Op), prog[k]? = some (.launch s op) → k ∈ st.executed) :
    st.memory = execAll device prog first := by
  funext l
  have whole := tracks l prog.length
    (fun i _ writes => by
      obtain ⟨s, op, found, _⟩ := writes
      exact finished i s op found)
    (fun i _ writes => by
      obtain ⟨s, op, found, _⟩ := writes
      exact (List.getElem?_eq_some_iff.mp found).1)
  rw [whole, seqMemory, List.take_length]

end

end Streams
