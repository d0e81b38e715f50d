import Mathlib.Data.List.Basic
import Mathlib.Data.List.Nodup
import Mathlib.Data.List.Chain
import Mathlib.Logic.Function.Basic

set_option autoImplicit false

namespace Ledger

-- What an event does to the accounts: empty all of them, leave them, or join
-- one.
inductive Kind (Class : Type) where
  | reset
  | skip
  | add (cls : Class)
deriving DecidableEq

-- Events are named by their place in the sequence. `emptied` is where the
-- present content of an account starts.
structure State (Class : Type) where
  seen : Nat
  emptied : Class → Nat
  pending : Class → List Nat
  discarded : Class → List Nat
  published : List (Class × List Nat)

section

variable {Class : Type}

def State.start : State Class := ⟨0, fun _ => 0, fun _ => [], fun _ => [], []⟩

variable [DecidableEq Class] (size : Nat)

def step (kind : Kind Class) (st : State Class) : State Class :=
  match kind with
  | .reset =>
      { st with
        seen := st.seen + 1
        emptied := fun _ => st.seen + 1
        pending := fun _ => []
        discarded := fun c => st.discarded c ++ st.pending c }
  | .skip => { st with seen := st.seen + 1 }
  | .add c =>
      if size ≤ (st.pending c).length + 1 then
        { st with
          seen := st.seen + 1
          emptied := Function.update st.emptied c (st.seen + 1)
          pending := Function.update st.pending c []
          published := st.published ++ [(c, st.pending c ++ [st.seen])] }
      else { st with seen := st.seen + 1, pending := Function.update st.pending c (st.pending c ++ [st.seen]) }

variable (kinds : Nat → Kind Class)

def run : Nat → State Class
  | 0 => .start
  | count + 1 => step size (kinds count) (run count)

-- The events from `lo` on and before `hi` that join an account.
def picked (c : Class) (lo hi : Nat) : List Nat := (List.range' lo (hi - lo)).filter fun i => kinds i = .add c

theorem mem_picked (c : Class) (lo hi i : Nat) : i ∈ picked kinds c lo hi ↔ (lo ≤ i ∧ i < hi) ∧ kinds i = .add c := by
  simp only [picked, List.mem_filter, List.mem_range'_1, decide_eq_true_eq]
  constructor
  · rintro ⟨inside, joins⟩
    exact ⟨by omega, joins⟩
  · rintro ⟨inside, joins⟩
    exact ⟨by omega, joins⟩

@[simp] theorem picked_self (c : Class) (at_ : Nat) : picked kinds c at_ at_ = [] := by simp [picked]

theorem picked_succ (c : Class) (lo hi : Nat) (ordered : lo ≤ hi) :
    picked kinds c lo (hi + 1) = picked kinds c lo hi ++ if kinds hi = .add c then [hi] else [] := by
  have size : hi + 1 - lo = hi - lo + 1 := by omega
  have last : lo + 1 * (hi - lo) = hi := by omega
  rw [picked, size, List.range'_concat, last, List.filter_append, picked]
  by_cases joins : kinds hi = .add c
  · simp [joins]
  · simp [joins]

theorem picked_append (c : Class) (lo mid hi : Nat) (below : lo ≤ mid) (above : mid ≤ hi) :
    picked kinds c lo hi = picked kinds c lo mid ++ picked kinds c mid hi := by
  have size : hi - lo = (mid - lo) + (hi - mid) := by omega
  have start : mid = lo + 1 * (mid - lo) := by omega
  rw [picked, size, ← List.range'_append, List.filter_append, ← start, picked, picked]

theorem picked_nodup (c : Class) (lo hi : Nat) : (picked kinds c lo hi).Nodup := List.Nodup.filter _ List.nodup_range'

theorem picked_ascend (c : Class) (lo hi : Nat) : (picked kinds c lo hi).Pairwise (· < ·) :=
  List.Pairwise.filter _ List.pairwise_lt_range'

theorem picked_head (c : Class) (lo hi first : Nat) (head : (picked kinds c lo hi).head? = some first) :
    lo ≤ first ∧ first < hi ∧ kinds first = .add c ∧ picked kinds c lo hi = picked kinds c first hi := by
  obtain ⟨rest, cut⟩ := List.head?_eq_some_iff.mp head
  have member : first ∈ picked kinds c lo hi := by rw [cut]; exact List.mem_cons_self ..
  obtain ⟨⟨above, below⟩, joins⟩ := (mem_picked kinds c lo hi first).mp member
  refine ⟨above, below, joins, ?_⟩
  have parts := picked_append kinds c lo first hi above (Nat.le_of_lt below)
  cases early : picked kinds c lo first with
  | nil => rw [parts, early, List.nil_append]
  | cons i others =>
      rw [early, cut, List.cons_append] at parts
      have same := (List.cons.inj parts).1
      have inside : i ∈ picked kinds c lo first := by rw [early]; exact List.mem_cons_self ..
      have before := ((mem_picked kinds c lo first i).mp inside).1.2
      omega

-- A published entry: everything of its class from its first member to its
-- last, with no reset between them.
structure Complete (entry : Class × List Nat) (first last : Nat) : Prop where
  head : entry.2.head? = some first
  final : entry.2.getLast? = some last
  joins : kinds first = .add entry.1 ∧ kinds last = .add entry.1
  members : entry.2 = picked kinds entry.1 first (last + 1)
  count : entry.2.length = size
  quiet : ∀ i, first ≤ i → i ≤ last → kinds i ≠ .reset

-- Where every event of the class joins, the members are consecutive.
theorem complete_consecutive (entry : Class × List Nat) (first last : Nat) (complete : Complete size kinds entry first last)
    (every : ∀ i, kinds i ≠ .reset → kinds i = .add entry.1) : entry.2 = List.range' first size := by
  have all : entry.2 = List.range' first (last + 1 - first) := by
    rw [complete.members, picked, List.filter_eq_self]
    intro i inside
    rw [List.mem_range'_1] at inside
    exact decide_eq_true (every i (complete.quiet i inside.1 (by omega)))
  have count := complete.count
  rw [all, List.length_range'] at count
  rw [all, count]

structure Balanced (st : State Class) : Prop where
  emptied : ∀ c, st.emptied c ≤ st.seen
  pending : ∀ c, st.pending c = picked kinds c (st.emptied c) st.seen
  below : ∀ c, (st.pending c).length < size
  quiet : ∀ c i, st.emptied c ≤ i → i < st.seen → kinds i ≠ .reset
  since : ∀ c, st.emptied c = 0 ∨ ∃ e, st.emptied c = e + 1 ∧
    (kinds e = .reset ∨ ∃ entry ∈ st.published, entry.1 = c ∧ entry.2.getLast? = some e)
  complete : ∀ entry ∈ st.published, ∃ first last, last < st.emptied entry.1 ∧ Complete size kinds entry first last
  once : (st.published.flatMap Prod.snd).Nodup
  lost : ∀ c, ∀ i ∈ st.discarded c, ∃ e, i < e ∧ e < st.seen ∧ kinds e = .reset
  accounted : ∀ c, List.Perm
    ((st.published.filter fun entry => entry.1 = c).flatMap Prod.snd ++ st.discarded c ++ st.pending c)
    (picked kinds c 0 st.seen)

variable (positive : 0 < size)
include positive

theorem start_balanced : Balanced size kinds (.start : State Class) := by
  constructor <;> simp [State.start, positive]

theorem reset_balanced (st : State Class) (balanced : Balanced size kinds st) (kind : kinds st.seen = .reset) :
    Balanced size kinds (step size .reset st) := by
  constructor
  · intro c
    exact Nat.le_refl _
  · intro c
    exact (picked_self kinds c _).symm
  · intro c
    exact positive
  · intro c i low high
    exact absurd high (Nat.not_lt.mpr low)
  · intro c
    exact Or.inr ⟨st.seen, rfl, Or.inl kind⟩
  · intro entry member
    obtain ⟨first, last, before, complete⟩ := balanced.complete entry member
    exact ⟨first, last, Nat.lt_succ_of_lt (Nat.lt_of_lt_of_le before (balanced.emptied entry.1)), complete⟩
  · exact balanced.once
  · intro c i member
    rcases List.mem_append.mp member with old | new
    · obtain ⟨e, after, past, resets⟩ := balanced.lost c i old
      exact ⟨e, after, Nat.lt_succ_of_lt past, resets⟩
    · rw [balanced.pending c] at new
      exact ⟨st.seen, ((mem_picked kinds c _ _ i).mp new).1.2, Nat.lt_succ_self _, kind⟩
  · intro c
    have before := balanced.accounted c
    rw [List.append_assoc] at before
    change List.Perm (_ ++ (st.discarded c ++ st.pending c) ++ []) (picked kinds c 0 (st.seen + 1))
    rw [picked_succ kinds c 0 st.seen (Nat.zero_le _), kind, List.append_nil, ← List.append_assoc]
    simpa [step] using before

omit positive in
theorem skip_balanced (st : State Class) (balanced : Balanced size kinds st) (kind : kinds st.seen = .skip) :
    Balanced size kinds (step size .skip st) := by
  constructor
  · intro c
    exact Nat.le_succ_of_le (balanced.emptied c)
  · intro c
    change st.pending c = picked kinds c (st.emptied c) (st.seen + 1)
    rw [picked_succ kinds c _ _ (balanced.emptied c), kind, balanced.pending c]
    simp
  · exact balanced.below
  · intro c i low high
    by_cases now : i = st.seen
    · rw [now, kind]
      simp
    · exact balanced.quiet c i low (by change i < st.seen + 1 at high; omega)
  · exact balanced.since
  · exact balanced.complete
  · exact balanced.once
  · intro c i member
    obtain ⟨e, after, past, resets⟩ := balanced.lost c i member
    exact ⟨e, after, Nat.lt_succ_of_lt past, resets⟩
  · intro c
    change List.Perm (_ ++ st.discarded c ++ st.pending c) (picked kinds c 0 (st.seen + 1))
    rw [picked_succ kinds c 0 st.seen (Nat.zero_le _), kind]
    simpa [step] using balanced.accounted c

-- What joins is picked from where the account was emptied.
omit positive in
theorem joined_picked (st : State Class) (balanced : Balanced size kinds st) (c : Class) (kind : kinds st.seen = .add c) :
    st.pending c ++ [st.seen] = picked kinds c (st.emptied c) (st.seen + 1) := by
  rw [picked_succ kinds c _ _ (balanced.emptied c), kind, balanced.pending c, if_pos rfl]

omit positive in
theorem joined_complete (st : State Class) (balanced : Balanced size kinds st) (c : Class) (kind : kinds st.seen = .add c)
    (full : size ≤ (st.pending c).length + 1) :
    ∃ first, Complete size kinds (c, st.pending c ++ [st.seen]) first st.seen := by
  have members := joined_picked size kinds st balanced c kind
  obtain ⟨first, head⟩ : ∃ first, (st.pending c ++ [st.seen]).head? = some first := by
    cases st.pending c with
    | nil => exact ⟨st.seen, rfl⟩
    | cons i rest => exact ⟨i, rfl⟩
  obtain ⟨low, high, joins, same⟩ := picked_head kinds c _ _ first (members ▸ head)
  refine ⟨first, head, by simp, ⟨joins, kind⟩, members.trans same, ?_, ?_⟩
  · have below := balanced.below c
    rw [List.length_append, List.length_singleton]
    omega
  · intro i above before
    by_cases now : i = st.seen
    · rw [now, kind]
      simp
    · exact balanced.quiet c i (Nat.le_trans low above) (by omega)

-- What an event that joins `c` leaves for the other accounts.
omit positive in
theorem others_picked (st : State Class) (balanced : Balanced size kinds st) (c d : Class) (kind : kinds st.seen = .add c)
    (other : d ≠ c) : st.pending d = picked kinds d (st.emptied d) (st.seen + 1) := by
  rw [picked_succ kinds d _ _ (balanced.emptied d), kind, balanced.pending d]
  simp [Ne.symm other]

omit positive in
theorem still_quiet (st : State Class) (balanced : Balanced size kinds st) (c d : Class) (kind : kinds st.seen = .add c)
    (i : Nat) (low : st.emptied d ≤ i) (high : i < st.seen + 1) : kinds i ≠ .reset := by
  by_cases now : i = st.seen
  · rw [now, kind]
    simp
  · exact balanced.quiet d i low (by omega)

omit positive in
theorem picked_joined (c d : Class) (count : Nat) (kind : kinds count = .add c) :
    picked kinds d 0 (count + 1) = picked kinds d 0 count ++ if d = c then [count] else [] := by
  rw [picked_succ kinds d 0 count (Nat.zero_le _), kind]
  simp [eq_comm]

omit positive in
theorem open_balanced (st : State Class) (balanced : Balanced size kinds st) (c : Class) (kind : kinds st.seen = .add c)
    (room : ¬ size ≤ (st.pending c).length + 1) : Balanced size kinds (step size (.add c) st) := by
  simp only [step, if_neg room]
  constructor
  · intro d
    exact Nat.le_succ_of_le (balanced.emptied d)
  · intro d
    by_cases same : d = c
    · subst same
      simp only [Function.update_self]
      exact joined_picked size kinds st balanced d kind
    · simp only [Function.update_of_ne same]
      exact others_picked size kinds st balanced c d kind same
  · intro d
    by_cases same : d = c
    · subst same
      simp only [Function.update_self, List.length_append, List.length_singleton]
      omega
    · simp only [Function.update_of_ne same]
      exact balanced.below d
  · intro d
    exact still_quiet size kinds st balanced c d kind
  · exact balanced.since
  · exact balanced.complete
  · exact balanced.once
  · intro c i member
    obtain ⟨e, after, past, resets⟩ := balanced.lost c i member
    exact ⟨e, after, Nat.lt_succ_of_lt past, resets⟩
  · intro d
    rw [picked_joined kinds c d st.seen kind]
    have before := balanced.accounted d
    by_cases same : d = c
    · subst same
      simp only [Function.update_self, if_true, ← List.append_assoc]
      exact before.append_right _
    · simp only [Function.update_of_ne same, same, if_false, List.append_nil]
      exact before

-- The members of a new entry are in no earlier one.
omit positive in
theorem joined_fresh (st : State Class) (balanced : Balanced size kinds st) (c : Class) (kind : kinds st.seen = .add c) :
    (st.published.flatMap Prod.snd).Disjoint (st.pending c ++ [st.seen]) := by
  intro i old new
  obtain ⟨entry, member, inside⟩ := List.mem_flatMap.mp old
  obtain ⟨start, last, before, complete⟩ := balanced.complete entry member
  rw [complete.members] at inside
  obtain ⟨⟨_, above⟩, joins⟩ := (mem_picked kinds _ _ _ i).mp inside
  rw [joined_picked size kinds st balanced c kind] at new
  obtain ⟨⟨low, _⟩, again⟩ := (mem_picked kinds _ _ _ i).mp new
  rw [joins] at again
  cases again
  omega

theorem full_balanced (st : State Class) (balanced : Balanced size kinds st) (c : Class) (kind : kinds st.seen = .add c)
    (full : size ≤ (st.pending c).length + 1) : Balanced size kinds (step size (.add c) st) := by
  obtain ⟨first, whole⟩ := joined_complete size kinds st balanced c kind full
  simp only [step, if_pos full]
  constructor
  · intro d
    by_cases same : d = c
    · simp [same]
    · simp only [Function.update_of_ne same]
      exact Nat.le_succ_of_le (balanced.emptied d)
  · intro d
    by_cases same : d = c
    · simp [same]
    · simp only [Function.update_of_ne same]
      exact others_picked size kinds st balanced c d kind same
  · intro d
    by_cases same : d = c
    · simp [same, positive]
    · simp only [Function.update_of_ne same]
      exact balanced.below d
  · intro d i low high
    by_cases same : d = c
    · simp only [same, Function.update_self] at low
      exact absurd high (Nat.not_lt.mpr low)
    · simp only [Function.update_of_ne same] at low
      exact still_quiet size kinds st balanced c d kind i low high
  · intro d
    by_cases same : d = c
    · simp only [same, Function.update_self]
      exact Or.inr ⟨st.seen, rfl, Or.inr ⟨_, List.mem_append_right _ (List.mem_singleton.mpr rfl), rfl, by simp⟩⟩
    · simp only [Function.update_of_ne same]
      refine (balanced.since d).imp_right ?_
      rintro ⟨e, start, reason⟩
      refine ⟨e, start, reason.imp_right ?_⟩
      rintro ⟨entry, member, mine⟩
      exact ⟨entry, List.mem_append_left _ member, mine⟩
  · intro entry member
    rcases List.mem_append.mp member with old | new
    · obtain ⟨start, last, before, complete⟩ := balanced.complete entry old
      refine ⟨start, last, ?_, complete⟩
      by_cases same : entry.1 = c
      · have limit := balanced.emptied entry.1
        simp only [same, Function.update_self]
        rw [same] at before limit
        omega
      · simp only [Function.update_of_ne same]
        exact before
    · rw [List.mem_singleton.mp new]
      exact ⟨first, st.seen, by simp, whole⟩
  · rw [List.flatMap_append, List.flatMap_singleton, List.nodup_append']
    refine ⟨balanced.once, ?_, joined_fresh size kinds st balanced c kind⟩
    rw [joined_picked size kinds st balanced c kind]
    exact picked_nodup kinds c _ _
  · intro c i member
    obtain ⟨e, after, past, resets⟩ := balanced.lost c i member
    exact ⟨e, after, Nat.lt_succ_of_lt past, resets⟩
  · intro d
    rw [picked_joined kinds c d st.seen kind, List.filter_append, List.flatMap_append]
    have before := balanced.accounted d
    by_cases same : d = c
    · subst same
      simp only [Function.update_self, List.append_nil, if_true, List.filter_cons, decide_true, List.filter_nil,
        List.flatMap_singleton]
      refine List.Perm.trans ?_ (before.append_right [st.seen])
      simp only [List.append_assoc, List.perm_append_left_iff]
      rw [← List.append_assoc]
      exact List.perm_append_comm
    · have away : List.filter (fun entry : Class × List Nat => decide (entry.1 = d)) [(c, st.pending c ++ [st.seen])] = [] := by
        simp [Ne.symm same]
      simp only [away, List.flatMap_nil, List.append_nil, Function.update_of_ne same, same, if_false]
      exact before

theorem add_balanced (st : State Class) (balanced : Balanced size kinds st) (c : Class) (kind : kinds st.seen = .add c) :
    Balanced size kinds (step size (.add c) st) := by
  by_cases full : size ≤ (st.pending c).length + 1
  · exact full_balanced size kinds positive st balanced c kind full
  · exact open_balanced size kinds st balanced c kind full

-- Where an event that joined is now.
omit positive in
theorem placed (st : State Class) (balanced : Balanced size kinds st) (c : Class) (i : Nat) (past : i < st.seen)
    (joins : kinds i = .add c) :
    (∃ entry ∈ st.published, i ∈ entry.2) ∨ i ∈ st.discarded c ∨ i ∈ st.pending c := by
  have all := (balanced.accounted c).mem_iff.mpr ((mem_picked kinds c 0 st.seen i).mpr ⟨⟨Nat.zero_le i, past⟩, joins⟩)
  rcases List.mem_append.mp all with settled | waiting
  · rcases List.mem_append.mp settled with out | lost
    · obtain ⟨entry, member, inside⟩ := List.mem_flatMap.mp out
      exact Or.inl ⟨entry, List.mem_of_mem_filter member, inside⟩
    · exact Or.inr (Or.inl lost)
  · exact Or.inr (Or.inr waiting)

-- The three places do not overlap.
omit positive in
theorem apart (st : State Class) (balanced : Balanced size kinds st) (c : Class) :
    (st.discarded c ++ st.pending c).Nodup ∧
    ∀ i ∈ st.discarded c ++ st.pending c, ∀ entry ∈ st.published, i ∉ entry.2 := by
  have once := (balanced.accounted c).nodup_iff.mpr (picked_nodup kinds c 0 st.seen)
  rw [List.append_assoc, List.nodup_append'] at once
  refine ⟨once.2.1, ?_⟩
  intro i held entry member inside
  have joins : kinds i = .add c := by
    have all := (balanced.accounted c).mem_iff.mp (by rw [List.append_assoc]; exact List.mem_append_right _ held)
    exact ((mem_picked kinds c 0 st.seen i).mp all).2
  obtain ⟨first, last, _, complete⟩ := balanced.complete entry member
  rw [complete.members] at inside
  have mine := ((mem_picked kinds _ _ _ i).mp inside).2
  rw [joins] at mine
  have same : entry.1 = c := (Kind.add.inj mine).symm
  refine once.2.2 (List.mem_flatMap.mpr ⟨entry, List.mem_filter.mpr ⟨member, decide_eq_true same⟩, ?_⟩) held
  rw [complete.members]
  exact inside

theorem run_balanced (count : Nat) : (run size kinds count).seen = count ∧ Balanced size kinds (run size kinds count) := by
  induction count with
  | zero => exact ⟨rfl, start_balanced size kinds positive⟩
  | succ count ih =>
      obtain ⟨seen, balanced⟩ := ih
      rw [run]
      cases kind : kinds count with
      | reset => exact ⟨by simp [step, seen], reset_balanced size kinds positive _ balanced (by rw [seen, kind])⟩
      | skip => exact ⟨by simp [step, seen], skip_balanced size kinds _ balanced (by rw [seen, kind])⟩
      | add c =>
          refine ⟨?_, add_balanced size kinds positive _ balanced c (by rw [seen, kind])⟩
          simp only [step, seen]
          split <;> rfl

-- Whatever of the class lies between two places was lost to a reset there.
def Gap (c : Class) (lo hi : Nat) : Prop :=
  lo < hi ∧ ∀ i, lo < i → i < hi → kinds i = .add c → ∃ e, i < e ∧ e < hi ∧ kinds e = .reset

def Succeeds (c : Class) (entry later : Class × List Nat) : Prop :=
  ∀ last first, entry.2.getLast? = some last → later.2.head? = some first → Gap kinds c last first

def entriesOf (st : State Class) (c : Class) : List (Class × List Nat) := st.published.filter fun entry => entry.1 = c

structure InOrder (st : State Class) : Prop where
  linked : ∀ c, (entriesOf st c).IsChain (Succeeds kinds c)
  trail : ∀ c, ∀ entry ∈ (entriesOf st c).getLast?, ∀ last, entry.2.getLast? = some last → Gap kinds c last (st.emptied c)

omit positive in
theorem reset_in_order (st : State Class) (balanced : Balanced size kinds st) (order : InOrder kinds st)
    (kind : kinds st.seen = .reset) : InOrder kinds (step size .reset st) := by
  refine ⟨order.linked, ?_⟩
  intro c entry member last final
  have before := (order.trail c entry member last final).1
  have bound := balanced.emptied c
  refine ⟨by change last < st.seen + 1; omega, ?_⟩
  intro i _ past joins
  have early : i ≠ st.seen := by
    rintro rfl
    rw [kind] at joins
    cases joins
  exact ⟨st.seen, by change i < st.seen + 1 at past; omega, Nat.lt_succ_self _, kind⟩

omit positive in
theorem full_succeeds (st : State Class) (balanced : Balanced size kinds st) (c : Class) (kind : kinds st.seen = .add c)
    (last first : Nat) (trail : Gap kinds c last (st.emptied c))
    (head : (st.pending c ++ [st.seen]).head? = some first) : Gap kinds c last first := by
  rw [joined_picked size kinds st balanced c kind] at head
  obtain ⟨low, _, _, same⟩ := picked_head kinds c _ _ first head
  refine ⟨Nat.lt_of_lt_of_le trail.1 low, ?_⟩
  intro i after before joins
  by_cases early : i < st.emptied c
  · obtain ⟨e, above, below, resets⟩ := trail.2 i after early joins
    exact ⟨e, above, Nat.lt_of_lt_of_le below low, resets⟩
  · have bound : first ≤ st.seen := by
      have inside : first ∈ picked kinds c (st.emptied c) (st.seen + 1) := List.mem_of_head? head
      exact Nat.lt_succ_iff.mp ((mem_picked kinds c _ _ first).mp inside).1.2
    have member : i ∈ picked kinds c (st.emptied c) (st.seen + 1) :=
      (mem_picked kinds c _ _ i).mpr ⟨⟨Nat.not_lt.mp early, by omega⟩, joins⟩
    rw [same] at member
    have above := ((mem_picked kinds c _ _ i).mp member).1.1
    omega

omit positive in
theorem full_in_order (st : State Class) (balanced : Balanced size kinds st) (order : InOrder kinds st) (c : Class)
    (kind : kinds st.seen = .add c) (full : size ≤ (st.pending c).length + 1) :
    InOrder kinds (step size (.add c) st) := by
  simp only [step, if_pos full]
  have own : entriesOf { st with published := st.published ++ [(c, st.pending c ++ [st.seen])] } c =
      entriesOf st c ++ [(c, st.pending c ++ [st.seen])] := by
    simp [entriesOf]
  have others : ∀ d, d ≠ c → entriesOf { st with published := st.published ++ [(c, st.pending c ++ [st.seen])] } d =
      entriesOf st d := by
    intro d other
    simp [entriesOf, Ne.symm other]
  constructor
  · intro d
    by_cases same : d = c
    · subst same
      refine (congrArg (List.IsChain _) own).mpr ?_
      refine List.isChain_append.mpr ⟨order.linked d, List.isChain_singleton _, ?_⟩
      intro entry member later alone last first final head
      obtain rfl : (d, st.pending d ++ [st.seen]) = later := by simpa using alone
      exact full_succeeds size kinds st balanced d kind last first (order.trail d entry member last final) head
    · exact (congrArg (List.IsChain _) (others d same)).mpr (order.linked d)
  · intro d entry member last final
    by_cases same : d = c
    · subst same
      have newest : (entriesOf st d ++ [(d, st.pending d ++ [st.seen])]).getLast? = some entry := by
        rw [← own]
        exact member
      obtain rfl : (d, st.pending d ++ [st.seen]) = entry := by simpa using newest
      obtain rfl : st.seen = last := by simpa using final
      simp only [Function.update_self]
      exact ⟨Nat.lt_succ_self _, fun i after before _ => by omega⟩
    · simp only [Function.update_of_ne same]
      refine order.trail d entry ?_ last final
      rw [← others d same]
      exact member

theorem run_in_order (count : Nat) : InOrder kinds (run size kinds count) := by
  induction count with
  | zero => exact ⟨fun c => List.isChain_nil, by simp [entriesOf, run, State.start]⟩
  | succ count ih =>
      obtain ⟨seen, balanced⟩ := run_balanced size kinds positive count
      rw [run]
      cases kind : kinds count with
      | reset => exact reset_in_order size kinds _ balanced ih (by rw [seen, kind])
      | skip => exact ⟨ih.linked, ih.trail⟩
      | add c =>
          by_cases full : size ≤ ((run size kinds count).pending c).length + 1
          · exact full_in_order size kinds _ balanced ih c (by rw [seen, kind]) full
          · simp only [step, if_neg full]
            exact ⟨ih.linked, ih.trail⟩

def FinishedBefore (entry later : Class × List Nat) : Prop :=
  ∀ i j, entry.2.getLast? = some i → later.2.getLast? = some j → i < j

-- Entries are published in the order of their last members.
theorem run_finished (count : Nat) : (run size kinds count).published.Pairwise FinishedBefore := by
  induction count with
  | zero => exact List.Pairwise.nil
  | succ count ih =>
      obtain ⟨seen, balanced⟩ := run_balanced size kinds positive count
      rw [run]
      cases kind : kinds count with
      | reset => exact ih
      | skip => exact ih
      | add c =>
          by_cases full : size ≤ ((run size kinds count).pending c).length + 1
          · simp only [step, if_pos full]
            refine List.pairwise_append.mpr ⟨ih, List.pairwise_singleton _ _, ?_⟩
            intro entry member later newest i j final finalLater
            obtain ⟨first, last, before, complete⟩ := balanced.complete entry member
            rw [List.mem_singleton.mp newest, List.getLast?_concat] at finalLater
            rw [complete.final] at final
            rw [← Option.some.inj final, ← Option.some.inj finalLater]
            exact Nat.lt_of_lt_of_le before (balanced.emptied entry.1)
          · simp only [step, if_neg full]
            exact ih

-- Where one class takes every event between two resets, the entries divide
-- each run of events into pieces of one size.
def RunStart (at_ : Nat) : Prop := at_ = 0 ∨ ∃ e, at_ = e + 1 ∧ kinds e = .reset

structure Piece (start k : Nat) : Prop where
  first : RunStart kinds start
  quiet : ∀ i, start ≤ i → i < start + (k + 1) * size → kinds i ≠ .reset

omit [DecidableEq Class] positive in
theorem run_start_unique (a b count : Nat) (first : RunStart kinds a) (second : RunStart kinds b) (belowA : a ≤ count)
    (belowB : b ≤ count) (quietA : ∀ i, a ≤ i → i < count → kinds i ≠ .reset)
    (quietB : ∀ i, b ≤ i → i < count → kinds i ≠ .reset) : a = b := by
  rcases Nat.lt_trichotomy a b with less | same | more
  · rcases second with zero | ⟨e, after, resets⟩
    · omega
    · exact absurd resets (quietA e (by omega) (by omega))
  · exact same
  · rcases first with zero | ⟨e, after, resets⟩
    · omega
    · exact absurd resets (quietB e (by omega) (by omega))

structure Pieces (c : Class) (st : State Class) : Prop where
  current : ∃ start k, RunStart kinds start ∧ st.emptied c = start + k * size ∧ ∀ i, start ≤ i → i < st.seen → kinds i ≠ .reset
  entries : ∀ entry, entry ∈ st.published ↔ entry.1 = c ∧ ∃ start k, Piece size kinds start k ∧
    start + (k + 1) * size ≤ st.seen ∧ entry.2 = List.range' (start + k * size) size

variable (c : Class) (every : ∀ i, kinds i ≠ .reset → kinds i = .add c)
include every

omit positive in
theorem picked_every (lo hi : Nat) (quiet : ∀ i, lo ≤ i → i < hi → kinds i ≠ .reset) :
    picked kinds c lo hi = List.range' lo (hi - lo) := by
  rw [picked, List.filter_eq_self]
  intro i inside
  rw [List.mem_range'_1] at inside
  exact decide_eq_true (every i (quiet i inside.1 (by omega)))

omit every in
theorem reset_pieces (st : State Class) (pieces : Pieces size kinds c st) (kind : kinds st.seen = .reset) :
    Pieces size kinds c (step size .reset st) := by
  constructor
  · refine ⟨st.seen + 1, 0, Or.inr ⟨st.seen, rfl, kind⟩, by simp [step], ?_⟩
    intro i low high
    exact absurd high (Nat.not_lt.mpr low)
  · intro entry
    refine (pieces.entries entry).trans (and_congr_right fun _ => exists_congr fun start => exists_congr fun k => ?_)
    refine and_congr_right fun piece => and_congr_left fun _ => ?_
    constructor
    · exact Nat.le_succ_of_le
    · intro inside
      rcases Nat.lt_or_eq_of_le inside with below | reaches
      · exact Nat.le_of_lt_succ below
      · have nonempty : 0 < (k + 1) * size := Nat.mul_pos k.succ_pos positive
        have last : start + (k + 1) * size = st.seen + 1 := reaches
        exact absurd kind (piece.quiet st.seen (by omega) (by omega))

theorem add_pieces (st : State Class) (balanced : Balanced size kinds st) (pieces : Pieces size kinds c st)
    (kind : kinds st.seen = .add c) : Pieces size kinds c (step size (.add c) st) := by
  obtain ⟨start, k, first, emptied, quiet⟩ := pieces.current
  have reached := balanced.emptied c
  have content := joined_picked size kinds st balanced c kind
  have quietNow : ∀ i, start ≤ i → i < st.seen + 1 → kinds i ≠ .reset := by
    intro i low high
    by_cases now : i = st.seen
    · rw [now, kind]
      simp
    · exact quiet i low (by omega)
  rw [picked_every kinds c every _ _ (fun i low high => quietNow i (by omega) high)] at content
  have length := congrArg List.length content
  rw [List.length_append, List.length_singleton, List.length_range'] at length
  have below := balanced.below c
  have next : start + (k + 1) * size = st.emptied c + size := by rw [emptied, Nat.succ_mul, Nat.add_assoc]
  -- A piece that ends here belongs to the current run.
  have ends : ∀ s m, Piece size kinds s m → s + (m + 1) * size = st.seen + 1 → s = start := by
    intro s m piece reaches
    have nonempty : 0 < (m + 1) * size := Nat.mul_pos m.succ_pos positive
    exact run_start_unique kinds s start (st.seen + 1) piece.first first (by omega) (by omega)
      (fun i low high => piece.quiet i low (by omega)) quietNow
  by_cases full : size ≤ (st.pending c).length + 1
  · simp only [step, if_pos full]
    have width : st.seen + 1 = start + (k + 1) * size := by omega
    constructor
    · refine ⟨start, k + 1, first, ?_, quietNow⟩
      simpa using width
    · intro entry
      simp only [List.mem_append, List.mem_singleton]
      constructor
      · rintro (old | rfl)
        · obtain ⟨cls, s, m, piece, inside, members⟩ := (pieces.entries entry).mp old
          exact ⟨cls, s, m, piece, by omega, members⟩
        · refine ⟨rfl, start, k, ⟨first, fun i low high => quietNow i low (by omega)⟩, Nat.le_of_eq width.symm, ?_⟩
          change st.pending c ++ [st.seen] = _
          rw [content, emptied, show st.seen + 1 - (start + k * size) = size by omega]
      · rintro ⟨cls, s, m, piece, inside, members⟩
        rcases Nat.lt_or_eq_of_le inside with earlier | reaches
        · exact Or.inl ((pieces.entries entry).mpr ⟨cls, s, m, piece, Nat.le_of_lt_succ earlier, members⟩)
        · obtain rfl := ends s m piece reaches
          have same : m = k := by
            have rows : (m + 1) * size = (k + 1) * size := by omega
            have := Nat.eq_of_mul_eq_mul_right positive rows
            omega
          refine Or.inr (Prod.ext cls ?_)
          rw [members, same, content, emptied, show st.seen + 1 - (s + k * size) = size by omega]
  · simp only [step, if_neg full]
    constructor
    · exact ⟨start, k, first, emptied, quietNow⟩
    · intro entry
      refine (pieces.entries entry).trans (and_congr_right fun _ => exists_congr fun s => exists_congr fun m => ?_)
      refine and_congr_right fun piece => and_congr_left fun _ => ?_
      constructor
      · exact Nat.le_succ_of_le
      · intro inside
        rcases Nat.lt_or_eq_of_le inside with earlier | reaches
        · exact Nat.le_of_lt_succ earlier
        · have last : s + (m + 1) * size = st.seen + 1 := reaches
          obtain rfl := ends s m piece last
          have low : k * size < (m + 1) * size := by omega
          have high : (m + 1) * size < (k + 1) * size := by omega
          have := Nat.lt_of_mul_lt_mul_right low
          have := Nat.lt_of_mul_lt_mul_right high
          omega

theorem run_pieces (count : Nat) : Pieces size kinds c (run size kinds count) := by
  induction count with
  | zero =>
      refine ⟨⟨0, 0, Or.inl rfl, by simp [run, State.start], fun i _ high => absurd high (Nat.not_lt_zero i)⟩, ?_⟩
      intro entry
      constructor
      · intro member
        cases member
      · rintro ⟨_, start, k, _, inside, _⟩
        have nonempty : 0 < (k + 1) * size := Nat.mul_pos k.succ_pos positive
        have none : start + (k + 1) * size ≤ 0 := inside
        omega
  | succ count ih =>
      obtain ⟨seen, balanced⟩ := run_balanced size kinds positive count
      rw [run]
      cases kind : kinds count with
      | reset => exact reset_pieces size kinds positive c _ ih (by rw [seen, kind])
      | skip =>
          have joins := every count (by simp [kind])
          rw [kind] at joins
          cases joins
      | add d =>
          have joins := every count (by simp [kind])
          obtain rfl : d = c := Kind.add.inj (kind.symm.trans joins)
          exact add_pieces size kinds positive d every _ balanced ih (by rw [seen, kind])

end

end Ledger
