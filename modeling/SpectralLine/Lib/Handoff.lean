import Mathlib.Data.List.Range
import Mathlib.Logic.Function.Basic
import SpectralLine.Lib.Run

set_option autoImplicit false

namespace Handoff

universe u

variable {n : Nat} {Batch : Type u}

-- A producer and a consumer share a pool of n entries through a bounded FIFO
-- of entry numbers. `sent` and `taken` record what an entry held when it was
-- enqueued and when it was dequeued.
structure State (n : Nat) (Batch : Type u) where
  pool : Fin n → Batch
  index : Fin n
  handed : Bool
  queue : List (Fin n)
  held : Option (Fin n)
  sent : List Batch
  taken : List Batch

-- Between enqueue and advance the producer's index still names the entry it
-- gave away, and it does not write.
inductive Action (Batch : Type u) where
  | fill (batch : Batch)
  | enqueue
  | advance
  | dequeue
  | use (batch : Batch)

def next (entry : Fin n) : Fin n :=
  if inside : entry.val + 1 < n then ⟨entry.val + 1, inside⟩ else ⟨0, Nat.lt_of_le_of_lt (Nat.zero_le _) entry.isLt⟩

-- `none`: the action is not possible now, the thread waits.
def step (capacity : Nat) (st : State n Batch) : Action Batch → Option (State n Batch)
  | .fill batch => if st.handed then none else some { st with pool := Function.update st.pool st.index batch }
  | .enqueue =>
      if st.handed = false ∧ st.queue.length < capacity then
        some { st with handed := true, queue := st.queue ++ [st.index], sent := st.sent ++ [st.pool st.index] }
      else none
  | .advance => if st.handed then some { st with handed := false, index := next st.index } else none
  | .dequeue =>
      match st.queue with
      | [] => none
      | entry :: rest => some { st with queue := rest, held := some entry, taken := st.taken ++ [st.pool entry] }
  | .use batch =>
      match st.held with
      | none => none
      | some entry => some { st with pool := Function.update st.pool entry batch }

def initial (pool : Fin n → Batch) (start : Fin n) : State n Batch := ⟨pool, start, false, [], none, [], []⟩

inductive Reachable (capacity : Nat) (first : State n Batch) : State n Batch → Prop
  | start : Reachable capacity first first
  | step (st after : State n Batch) (action : Action Batch) (before : Reachable capacity first st)
      (taken : step capacity st action = some after) : Reachable capacity first after

-- The pool entry of the kth batch.
def entry (positive : 0 < n) (k : Nat) : Fin n := ⟨k % n, Nat.mod_lt k positive⟩

theorem next_entry (positive : 0 < n) (k : Nat) : next (entry positive k) = entry positive (k + 1) := by
  apply Fin.ext
  have whole : (k + 1) % n = (k % n + 1) % n := by rw [Nat.mod_add_mod]
  by_cases inside : (entry positive k).val + 1 < n
  · rw [next, dif_pos inside]
    exact (whole.trans (Nat.mod_eq_of_lt inside)).symm
  · have last : k % n + 1 = n := by
      have below := Nat.mod_lt k positive
      have outside : ¬ k % n + 1 < n := inside
      omega
    rw [next, dif_neg inside]
    exact (whole.trans (by rw [last, Nat.mod_self])).symm

theorem entry_distinct (positive : 0 < n) (a b : Nat) (before : a < b) (near : b < a + n) :
    entry positive a ≠ entry positive b := by
  intro same
  have residue : a % n = b % n := congrArg Fin.val same
  have divides : n ∣ b - a := Nat.dvd_of_mod_eq_zero (Nat.sub_mod_eq_zero_of_mod_eq residue.symm)
  have least := Nat.le_of_dvd (by omega) divides
  omega

-- `produced` batches were enqueued and `consumed` dequeued: the queue is the
-- window between them and each side holds one more entry.
structure Window (capacity : Nat) (positive : 0 < n) (st : State n Batch) (produced consumed : Nat) : Prop where
  index : st.index = entry positive (if st.handed then produced - 1 else produced)
  handed : st.handed = true → 0 < produced
  queue : st.queue = (List.range' consumed (produced - consumed)).map (entry positive)
  held : st.held = if consumed = 0 then none else some (entry positive (consumed - 1))
  order : consumed ≤ produced
  bounded : produced - consumed ≤ capacity
  contents : st.sent = st.taken ++ st.queue.map st.pool

section

variable (capacity : Nat) (positive : 0 < n) (spare : capacity + 2 ≤ n)

include spare

theorem filling_unshared (st : State n Batch) (produced consumed : Nat)
    (window : Window capacity positive st produced consumed) (filling : st.handed = false) :
    st.index ∉ st.queue ∧ st.held ≠ some st.index := by
  have bounded := window.bounded
  have order := window.order
  have index : st.index = entry positive produced := by rw [window.index, filling]; rfl
  rw [index, window.queue, window.held]
  constructor
  · intro member
    obtain ⟨k, inside, same⟩ := List.mem_map.mp member
    rw [List.mem_range'_1] at inside
    exact entry_distinct positive k produced (by omega) (by omega) same
  · by_cases none : consumed = 0
    · simp [none]
    · rw [if_neg none]
      intro same
      exact entry_distinct positive (consumed - 1) produced (by omega) (by omega) (Option.some.inj same)

theorem held_unqueued (st : State n Batch) (produced consumed : Nat)
    (window : Window capacity positive st produced consumed) (held : Fin n) (taken : st.held = some held) :
    held ∉ st.queue := by
  have bounded := window.bounded
  have order := window.order
  have last := window.held
  rw [taken] at last
  by_cases none : consumed = 0
  · simp [none] at last
  · rw [if_neg none] at last
    rw [Option.some.inj last, window.queue]
    intro member
    obtain ⟨k, inside, same⟩ := List.mem_map.mp member
    rw [List.mem_range'_1] at inside
    exact entry_distinct positive (consumed - 1) k (by omega) (by omega) same.symm

omit spare in
theorem queue_unwritten (pool : Fin n → Batch) (queue : List (Fin n)) (entry : Fin n) (batch : Batch)
    (absent : entry ∉ queue) : queue.map (Function.update pool entry batch) = queue.map pool := by
  apply List.map_congr_left
  intro other member
  have different : other ≠ entry := fun same => absent (same ▸ member)
  exact Function.update_of_ne different batch pool

theorem fill_window (st : State n Batch) (batch : Batch) (produced consumed : Nat)
    (window : Window capacity positive st produced consumed) (filling : st.handed = false) :
    Window capacity positive { st with pool := Function.update st.pool st.index batch } produced consumed := by
  have alone := (filling_unshared capacity positive spare st produced consumed window filling).1
  refine ⟨window.index, window.handed, window.queue, window.held, window.order, window.bounded, ?_⟩
  rw [window.contents, queue_unwritten st.pool st.queue st.index batch alone]

omit spare in
theorem enqueue_window (st : State n Batch) (produced consumed : Nat)
    (window : Window capacity positive st produced consumed) (filling : st.handed = false)
    (room : st.queue.length < capacity) :
    Window capacity positive
      { st with handed := true, queue := st.queue ++ [st.index], sent := st.sent ++ [st.pool st.index] }
      (produced + 1) consumed := by
  have order := window.order
  have bounded := window.bounded
  rw [window.queue, List.length_map, List.length_range'] at room
  have index : st.index = entry positive produced := by rw [window.index, filling]; rfl
  have one : produced + 1 - consumed = (produced - consumed) + 1 := by omega
  refine ⟨?_, fun _ => by omega, ?_, window.held, by omega, by omega, ?_⟩
  · simpa using index
  · rw [one, List.range'_concat, List.map_append, window.queue, index]
    simp only [List.map_singleton]
    congr 3
    omega
  · simp [window.contents]

omit spare in
theorem advance_window (st : State n Batch) (produced consumed : Nat)
    (window : Window capacity positive st produced consumed) (handed : st.handed = true) :
    Window capacity positive { st with handed := false, index := next st.index } produced consumed := by
  have some := window.handed handed
  have index := window.index
  rw [handed, if_pos rfl] at index
  refine ⟨?_, by simp, window.queue, window.held, window.order, window.bounded, window.contents⟩
  simp only [index, next_entry, Bool.false_eq_true, if_false]
  congr 1
  omega

omit spare in
theorem dequeue_window (st : State n Batch) (head : Fin n) (rest : List (Fin n)) (produced consumed : Nat)
    (window : Window capacity positive st produced consumed) (queue : st.queue = head :: rest) :
    Window capacity positive { st with queue := rest, held := some head, taken := st.taken ++ [st.pool head] }
      produced (consumed + 1) := by
  have order := window.order
  have bounded := window.bounded
  have listed := window.queue
  rw [queue] at listed
  have nonempty : produced - consumed ≠ 0 := by
    intro empty
    simp [empty] at listed
  obtain ⟨more, size⟩ := Nat.exists_eq_succ_of_ne_zero nonempty
  rw [size, List.range'_succ, List.map_cons] at listed
  obtain ⟨first, tail⟩ := List.cons.inj listed
  have left : produced - (consumed + 1) = more := by omega
  refine ⟨window.index, window.handed, ?_, ?_, by omega, by omega, ?_⟩
  · rw [left]
    exact tail
  · simp [first]
  · simp [window.contents, queue]

theorem use_window (st : State n Batch) (entry : Fin n) (batch : Batch) (produced consumed : Nat)
    (window : Window capacity positive st produced consumed) (held : st.held = some entry) :
    Window capacity positive { st with pool := Function.update st.pool entry batch } produced consumed := by
  have alone := held_unqueued capacity positive spare st produced consumed window entry held
  refine ⟨window.index, window.handed, window.queue, window.held, window.order, window.bounded, ?_⟩
  rw [window.contents, queue_unwritten st.pool st.queue entry batch alone]

theorem step_window (st after : State n Batch) (action : Action Batch) (produced consumed : Nat)
    (window : Window capacity positive st produced consumed) (taken : step capacity st action = some after) :
    ∃ produced consumed, Window capacity positive after produced consumed := by
  cases action with
  | fill batch =>
      by_cases handed : st.handed = true
      · simp [step, handed] at taken
      · rw [step, if_neg handed] at taken
        cases taken
        exact ⟨_, _, fill_window capacity positive spare st batch _ _ window (by simpa using handed)⟩
  | enqueue =>
      by_cases ready : st.handed = false ∧ st.queue.length < capacity
      · simp only [step, if_pos ready, Option.some.injEq] at taken
        subst taken
        exact ⟨_, _, enqueue_window capacity positive st _ _ window ready.1 ready.2⟩
      · simp [step, ready] at taken
  | advance =>
      by_cases handed : st.handed = true
      · simp only [step, handed, if_true, Option.some.injEq] at taken
        subst taken
        exact ⟨_, _, advance_window capacity positive st _ _ window handed⟩
      · simp [step, handed] at taken
  | dequeue =>
      cases queue : st.queue with
      | nil => simp [step, queue] at taken
      | cons head rest =>
          simp only [step, queue, Option.some.injEq] at taken
          subst taken
          exact ⟨_, _, dequeue_window capacity positive st head rest _ _ window queue⟩
  | use batch =>
      cases held : st.held with
      | none => simp [step, held] at taken
      | some entry =>
          simp only [step, held, Option.some.injEq] at taken
          subst taken
          have used := use_window capacity positive spare st entry batch produced consumed window held
          rw [held] at used
          exact ⟨produced, consumed, used⟩

theorem reachable_window (pool : Fin n → Batch) (st : State n Batch)
    (reached : Reachable capacity (initial pool (entry positive 0)) st) :
    ∃ produced consumed, Window capacity positive st produced consumed := by
  induction reached with
  | start => exact ⟨0, 0, rfl, by simp [initial], rfl, rfl, Nat.le_refl _, Nat.zero_le _, rfl⟩
  | step st after action before taken ih =>
      obtain ⟨produced, consumed, window⟩ := ih
      exact step_window capacity positive spare st after action produced consumed window taken

end

end Handoff
