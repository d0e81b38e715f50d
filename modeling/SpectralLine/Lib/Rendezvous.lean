import Mathlib.Data.List.Induction
import Mathlib.Logic.Function.Basic

set_option autoImplicit false

namespace Rendezvous

universe u

-- A worker raises the count under the mutex and notifies after releasing it.
inductive Phase where
  | absent
  | preparing
  | raising
  | raised
  | notifying
  | running
deriving DecidableEq

-- The waiting thread first launches the workers one after the other.
inductive Waiter (W : Type u) where
  | launching (rest : List W)
  | locking
  | testing
  | sleeping
  | woken
  | passed
deriving DecidableEq

inductive Holder (W : Type u) where
  | waiter
  | worker (w : W)

structure State (W : Type u) where
  mutex : Option (Holder W)
  ready : Nat
  phase : W → Phase
  waiter : Waiter W

inductive Action (W : Type u) where
  | waiter
  | worker (w : W)
  | spurious

section

variable {W : Type u} [DecidableEq W]

def initial (order : List W) : State W := ⟨none, 0, fun _ => .absent, .launching order⟩

def lock (holder : Holder W) (st : State W) : Option (State W) :=
  match st.mutex with
  | none => some { st with mutex := some holder }
  | some _ => none

def move (w : W) (next : Phase) (st : State W) : State W := { st with phase := Function.update st.phase w next }

def wake : Waiter W → Waiter W
  | .sleeping => .woken
  | waiter => waiter

-- Testing the predicate and going to sleep is one step: the wait releases the
-- mutex and blocks atomically.
def waiterStep (total : Nat) (st : State W) : Option (State W) :=
  match st.waiter with
  | .launching [] => some { st with waiter := .locking }
  | .launching (w :: rest) => some (move w .preparing { st with waiter := .launching rest })
  | .locking => (lock .waiter st).map fun st => { st with waiter := .testing }
  | .woken => (lock .waiter st).map fun st => { st with waiter := .testing }
  | .testing =>
      if st.ready = total then some { st with waiter := .passed } else some { st with mutex := none, waiter := .sleeping }
  | .sleeping => none
  | .passed => none

def workerStep (w : W) (st : State W) : Option (State W) :=
  match st.phase w with
  | .absent => none
  | .preparing => (lock (.worker w) st).map (move w .raising)
  | .raising => some (move w .raised { st with ready := st.ready + 1 })
  | .raised => some (move w .notifying { st with mutex := none })
  | .notifying => some (move w .running { st with waiter := wake st.waiter })
  | .running => none

def step (total : Nat) (st : State W) : Action W → Option (State W)
  | .waiter => waiterStep total st
  | .worker w => workerStep w st
  | .spurious =>
      match st.waiter with
      | .sleeping => some { st with waiter := .woken }
      | _ => none

def run (total : Nat) (order : List W) (actions : List (Action W)) : Option (State W) :=
  actions.foldlM (step total) (initial order)

end

def Waiter.rest {W : Type u} : Waiter W → List W
  | .launching rest => rest
  | _ => []

def Phase.announced : Phase → Nat
  | .raised => 1
  | .notifying => 1
  | .running => 1
  | _ => 0

-- The steps a thread has left; a notification may cost the waiter two more.
def Phase.left : Phase → Nat
  | .absent => 6
  | .preparing => 6
  | .raising => 5
  | .raised => 4
  | .notifying => 3
  | .running => 0

def Waiter.left {W : Type u} : Waiter W → Nat
  | .launching rest => rest.length + 3
  | .locking => 2
  | .woken => 2
  | .testing => 1
  | .sleeping => 0
  | .passed => 0

section

variable {W : Type u} [DecidableEq W]

def weigh (weight : Phase → Nat) : List W → (W → Phase) → Nat
  | [], _ => 0
  | w :: rest, phase => weight (phase w) + weigh weight rest phase

theorem weigh_other (weight : Phase → Nat) (order : List W) (phase : W → Phase) (w : W) (next : Phase) (other : w ∉ order) :
    weigh weight order (Function.update phase w next) = weigh weight order phase := by
  induction order with
  | nil => rfl
  | cons v rest ih =>
      have here : v ≠ w := fun same => other (same ▸ List.mem_cons_self ..)
      rw [weigh, weigh, Function.update_of_ne here, ih fun member => other (List.mem_cons_of_mem _ member)]

omit [DecidableEq W] in
theorem weigh_level (weight : Phase → Nat) (order : List W) (phase : W → Phase) (level : Nat)
    (same : ∀ w ∈ order, weight (phase w) = level) : weigh weight order phase = order.length * level := by
  induction order with
  | nil => exact (Nat.zero_mul level).symm
  | cons w rest ih =>
      rw [weigh, same w (List.mem_cons_self ..), ih fun v member => same v (List.mem_cons_of_mem _ member), List.length_cons,
        Nat.succ_mul, Nat.add_comm]

-- One worker moves on, the others keep their weight.
theorem weigh_update (weight : Phase → Nat) (order : List W) (distinct : order.Nodup) (phase : W → Phase) (w : W) (next : Phase)
    (member : w ∈ order) :
    weigh weight order (Function.update phase w next) + weight (phase w) = weigh weight order phase + weight next := by
  induction order with
  | nil => cases member
  | cons v rest ih =>
      obtain ⟨fresh, others⟩ := List.nodup_cons.mp distinct
      by_cases here : v = w
      · have tail := weigh_other weight rest phase w next (here ▸ fresh)
        simp only [weigh, here, Function.update_self]
        omega
      · have tail := ih others ((List.mem_cons.mp member).resolve_left fun same => here same.symm)
        simp only [weigh, Function.update_of_ne here]
        omega

omit [DecidableEq W] in
theorem announced_bound (order : List W) (phase : W → Phase) : weigh Phase.announced order phase ≤ order.length := by
  induction order with
  | nil => exact Nat.le_refl 0
  | cons w rest ih =>
      have one : (phase w).announced ≤ 1 := by cases phase w <;> decide
      rw [weigh, List.length_cons]
      omega

omit [DecidableEq W] in
-- A full count is that of every worker.
theorem announced_all (order : List W) (phase : W → Phase) (full : weigh Phase.announced order phase = order.length) :
    ∀ w ∈ order, (phase w).announced = 1 := by
  induction order with
  | nil => exact fun w member => nomatch member
  | cons v rest ih =>
      have one : (phase v).announced ≤ 1 := by cases phase v <;> decide
      have bound := announced_bound rest phase
      rw [weigh, List.length_cons] at full
      intro w member
      rcases List.mem_cons.mp member with rfl | later
      · omega
      · exact ih (by omega) w later

-- Who holds the mutex, what the count stands for, and that a sleeper with a
-- full count is still owed a notification.
structure Meets (total : Nat) (order : List W) (st : State W) : Prop where
  working : ∀ w, st.mutex = some (.worker w) ↔ st.phase w = .raising ∨ st.phase w = .raised
  waiting : st.mutex = some .waiter ↔ st.waiter = .testing ∨ st.waiter = .passed
  ready : st.ready = weigh Phase.announced order st.phase
  begun : ∃ done, order = done ++ st.waiter.rest ∧ ∀ w, st.phase w ≠ .absent ↔ w ∈ done
  passed : st.waiter = .passed → st.ready = total
  asleep : st.waiter = .sleeping → st.ready = total → ∃ w, st.phase w = .raised ∨ st.phase w = .notifying

omit [DecidableEq W] in
theorem lock_free (holder : Holder W) (st next : State W) (taken : lock holder st = some next) :
    st.mutex = none ∧ next = { st with mutex := some holder } := by
  rw [lock] at taken
  cases free : st.mutex with
  | none =>
      rw [free] at taken
      exact ⟨rfl, (Option.some.inj taken).symm⟩
  | some other =>
      rw [free] at taken
      cases taken

theorem begun_move (total : Nat) (order : List W) (st : State W) (meets : Meets total order st) (w : W) (next : Phase)
    (present : st.phase w ≠ .absent) (stays : next ≠ .absent) :
    ∃ done, order = done ++ st.waiter.rest ∧ ∀ v, Function.update st.phase w next v ≠ .absent ↔ v ∈ done := by
  obtain ⟨done, split, each⟩ := meets.begun
  refine ⟨done, split, fun v => ?_⟩
  by_cases here : v = w
  · subst here
    rw [Function.update_self]
    exact ⟨fun _ => (each v).mp present, fun _ => stays⟩
  · rw [Function.update_of_ne here]
    exact each v

omit [DecidableEq W] in
theorem present_listed (total : Nat) (order : List W) (st : State W) (meets : Meets total order st) (w : W)
    (present : st.phase w ≠ .absent) : w ∈ order := by
  obtain ⟨done, split, each⟩ := meets.begun
  rw [split]
  exact List.mem_append_left _ ((each w).mp present)

theorem ready_move (total : Nat) (order : List W) (distinct : order.Nodup) (st : State W) (meets : Meets total order st) (w : W)
    (next : Phase) (present : st.phase w ≠ .absent) :
    weigh Phase.announced order (Function.update st.phase w next) + (st.phase w).announced = st.ready + next.announced := by
  rw [meets.ready]
  exact weigh_update Phase.announced order distinct st.phase w next (present_listed total order st meets w present)

-- The phases of the other workers say who else holds the mutex.
theorem working_move (st : State W) (w : W) (next : Phase) (mutex : Option (Holder W))
    (mine : mutex = some (.worker w) ↔ next = .raising ∨ next = .raised)
    (others : ∀ v, v ≠ w → (mutex = some (.worker v) ↔ st.phase v = .raising ∨ st.phase v = .raised)) :
    ∀ v, mutex = some (.worker v) ↔ Function.update st.phase w next v = .raising ∨ Function.update st.phase w next v = .raised := by
  intro v
  by_cases here : v = w
  · subst here
    rw [Function.update_self]
    exact mine
  · rw [Function.update_of_ne here]
    exact others v here

theorem prepare_meets (total : Nat) (order : List W) (distinct : order.Nodup) (st : State W) (meets : Meets total order st) (w : W)
    (phase : st.phase w = .preparing) (free : st.mutex = none) :
    Meets total order (move w .raising { st with mutex := some (.worker w) }) := by
  have present : st.phase w ≠ .absent := by rw [phase]; decide
  have count := ready_move total order distinct st meets w .raising present
  have idle : ¬ (st.waiter = .testing ∨ st.waiter = .passed) := by
    rw [← meets.waiting, free]
    exact fun same => nomatch same
  refine ⟨working_move st w .raising _ ?_ ?_, ?_, ?_, begun_move total order st meets w .raising present (by decide), ?_, ?_⟩
  · exact ⟨fun _ => .inl rfl, fun _ => rfl⟩
  · intro v other
    have apart : ¬ (st.phase v = .raising ∨ st.phase v = .raised) := by
      rw [← meets.working v, free]
      exact fun same => nomatch same
    exact ⟨fun same => absurd (by cases same; rfl) other, fun holds => absurd holds apart⟩
  · exact ⟨(fun same => nomatch same), fun holds => absurd holds idle⟩
  · rw [phase] at count
    exact count.symm
  · exact fun done => absurd (.inr done) idle
  · intro sleeps full
    obtain ⟨v, owes⟩ := meets.asleep sleeps full
    have other : v ≠ w := by
      rintro rfl
      rw [phase] at owes
      rcases owes with same | same <;> cases same
    exact ⟨v, by simpa only [move, Function.update_of_ne other] using owes⟩

theorem raise_meets (total : Nat) (order : List W) (distinct : order.Nodup) (st : State W) (meets : Meets total order st) (w : W)
    (phase : st.phase w = .raising) : Meets total order (move w .raised { st with ready := st.ready + 1 }) := by
  have present : st.phase w ≠ .absent := by rw [phase]; decide
  have holds : st.mutex = some (.worker w) := (meets.working w).mpr (.inl phase)
  have count := ready_move total order distinct st meets w .raised present
  refine ⟨working_move st w .raised _ ?_ fun v _ => meets.working v, meets.waiting, ?_,
    begun_move total order st meets w .raised present (by decide), ?_, ?_⟩
  · exact ⟨fun _ => .inr rfl, fun _ => holds⟩
  · rw [phase] at count
    exact count.symm
  · intro done
    have own := meets.waiting.mpr (.inr done)
    rw [holds] at own
    cases own
  · exact fun _ _ => ⟨w, .inl (Function.update_self ..)⟩

theorem release_meets (total : Nat) (order : List W) (distinct : order.Nodup) (st : State W) (meets : Meets total order st) (w : W)
    (phase : st.phase w = .raised) : Meets total order (move w .notifying { st with mutex := none }) := by
  have present : st.phase w ≠ .absent := by rw [phase]; decide
  have holds : st.mutex = some (.worker w) := (meets.working w).mpr (.inr phase)
  have count := ready_move total order distinct st meets w .notifying present
  have idle : ¬ (st.waiter = .testing ∨ st.waiter = .passed) := by
    rw [← meets.waiting, holds]
    exact fun same => nomatch same
  refine ⟨working_move st w .notifying _ ?_ ?_, ?_, ?_, begun_move total order st meets w .notifying present (by decide), ?_, ?_⟩
  · exact ⟨(fun same => nomatch same), fun same => by rcases same with same | same <;> cases same⟩
  · intro v other
    have apart : ¬ (st.phase v = .raising ∨ st.phase v = .raised) := by
      rw [← meets.working v, holds]
      exact fun same => other (by cases same; rfl)
    exact ⟨(fun same => nomatch same), fun holds => absurd holds apart⟩
  · exact ⟨(fun same => nomatch same), fun holds => absurd holds idle⟩
  · rw [phase] at count
    have level : weigh Phase.announced order (Function.update st.phase w .notifying) = st.ready := Nat.add_right_cancel count
    exact level.symm
  · exact fun done => absurd (.inr done) idle
  · exact fun _ _ => ⟨w, .inr (Function.update_self ..)⟩

omit [DecidableEq W] in
theorem wake_rest (waiter : Waiter W) : (wake waiter).rest = waiter.rest := by
  cases waiter <;> rfl

omit [DecidableEq W] in
theorem wake_testing (waiter : Waiter W) : (wake waiter = .testing ↔ waiter = .testing) ∧ (wake waiter = .passed ↔ waiter = .passed) ∧
    wake waiter ≠ .sleeping := by
  cases waiter <;> simp [wake]

theorem notify_meets (total : Nat) (order : List W) (distinct : order.Nodup) (st : State W) (meets : Meets total order st) (w : W)
    (phase : st.phase w = .notifying) : Meets total order (move w .running { st with waiter := wake st.waiter }) := by
  have present : st.phase w ≠ .absent := by rw [phase]; decide
  have count := ready_move total order distinct st meets w .running present
  obtain ⟨testing, passed, awake⟩ := wake_testing st.waiter
  refine ⟨working_move st w .running _ ?_ fun v _ => meets.working v, ?_, ?_, ?_, fun done => meets.passed (passed.mp done),
    fun sleeps => absurd sleeps awake⟩
  · have free : ¬ (st.phase w = .raising ∨ st.phase w = .raised) := by
      rw [phase]
      decide
    rw [← meets.working w] at free
    exact ⟨fun same => absurd same free, fun same => by rcases same with same | same <;> cases same⟩
  · simp only [move, testing, passed]
    exact meets.waiting
  · rw [phase] at count
    have level : weigh Phase.announced order (Function.update st.phase w .running) = st.ready := Nat.add_right_cancel count
    exact level.symm
  · simp only [move, wake_rest]
    exact begun_move total order st meets w .running present (by decide)

theorem launch_meets (total : Nat) (order : List W) (distinct : order.Nodup) (st : State W) (meets : Meets total order st) (w : W)
    (rest : List W) (waiter : st.waiter = .launching (w :: rest)) :
    Meets total order (move w .preparing { st with waiter := .launching rest }) ∧ st.phase w = .absent ∧ w ∈ order := by
  obtain ⟨done, split, each⟩ := meets.begun
  have ahead : order = done ++ w :: rest := by rw [split, waiter]; rfl
  have member : w ∈ order := by rw [ahead]; exact List.mem_append_right _ (List.mem_cons_self ..)
  have fresh : w ∉ done := by
    rw [ahead] at distinct
    exact fun listed => (List.nodup_append.mp distinct).2.2 w listed w (List.mem_cons_self ..) rfl
  have absent : st.phase w = .absent := by
    by_contra present
    exact fresh ((each w).mp present)
  have idle : ¬ (st.waiter = .testing ∨ st.waiter = .passed) := by
    rw [waiter]
    exact fun same => by rcases same with same | same <;> cases same
  have count := weigh_update Phase.announced order distinct st.phase w .preparing member
  refine ⟨⟨working_move st w .preparing _ ?_ fun v _ => meets.working v, ?_, ?_, ?_, (fun same => nomatch same), (fun same => nomatch same)⟩,
    absent, member⟩
  · have free : ¬ (st.phase w = .raising ∨ st.phase w = .raised) := by
      rw [absent]
      decide
    rw [← meets.working w] at free
    exact ⟨fun same => absurd same free, fun same => by rcases same with same | same <;> cases same⟩
  · have free : ¬ st.mutex = some .waiter := fun own => idle (meets.waiting.mp own)
    exact ⟨fun own => absurd own free, fun same => by rcases same with same | same <;> cases same⟩
  · rw [absent] at count
    exact meets.ready.trans (Nat.add_right_cancel count).symm
  · refine ⟨done ++ [w], by rw [ahead, List.append_assoc]; rfl, fun v => ?_⟩
    by_cases here : v = w
    · subst here
      simp [move]
    · simp only [move, Function.update_of_ne here, List.mem_append, List.mem_singleton, here, or_false]
      exact each v

end

section

variable {W : Type u}

-- What the waiter does by itself leaves the workers as they are.
theorem waiter_meets (total : Nat) (order : List W) (st : State W) (meets : Meets total order st) (mutex : Option (Holder W))
    (waiter : Waiter W) (rest : waiter.rest = st.waiter.rest)
    (working : ∀ w, mutex = some (.worker w) ↔ st.mutex = some (.worker w))
    (waiting : mutex = some .waiter ↔ waiter = .testing ∨ waiter = .passed)
    (passed : waiter = .passed → st.ready = total)
    (asleep : waiter = .sleeping → st.ready = total → ∃ w, st.phase w = .raised ∨ st.phase w = .notifying) :
    Meets total order { st with mutex, waiter } := by
  refine ⟨fun w => (working w).trans (meets.working w), waiting, meets.ready, ?_, passed, asleep⟩
  rw [rest]
  exact meets.begun

theorem acquire_meets (total : Nat) (order : List W) (st : State W) (meets : Meets total order st) (free : st.mutex = none)
    (launched : st.waiter.rest = []) : Meets total order { st with mutex := some .waiter, waiter := .testing } := by
  apply waiter_meets total order st meets (some .waiter) .testing launched.symm
  · intro w
    rw [free]
    exact ⟨(fun same => nomatch same), (fun same => nomatch same)⟩
  · exact ⟨fun _ => .inl rfl, fun _ => rfl⟩
  · exact fun same => nomatch same
  · exact fun same => nomatch same

-- The sleeper gives the mutex up with the predicate false.
theorem test_meets (total : Nat) (order : List W) (st : State W) (meets : Meets total order st) (testing : st.waiter = .testing) :
    (st.ready = total → Meets total order { st with waiter := .passed }) ∧
    (st.ready ≠ total → Meets total order { st with mutex := none, waiter := .sleeping }) := by
  have own : st.mutex = some .waiter := meets.waiting.mpr (.inl testing)
  constructor
  · intro full
    apply waiter_meets total order st meets st.mutex .passed (by rw [testing]; rfl) (fun _ => Iff.rfl)
    · exact ⟨fun _ => .inr rfl, fun _ => own⟩
    · exact fun _ => full
    · exact fun same => nomatch same
  · intro short
    apply waiter_meets total order st meets none .sleeping (by rw [testing]; rfl)
    · intro w
      rw [own]
      exact ⟨(fun same => nomatch same), (fun same => nomatch same)⟩
    · exact ⟨(fun same => nomatch same), fun same => by rcases same with same | same <;> cases same⟩
    · exact fun same => nomatch same
    · exact fun _ full => absurd full short

-- A waiter that holds no mutex may change its place without the workers noticing.
theorem idle_meets (total : Nat) (order : List W) (st : State W) (meets : Meets total order st) (waiter : Waiter W)
    (rest : waiter.rest = st.waiter.rest) (idle : ¬ (st.waiter = .testing ∨ st.waiter = .passed))
    (lax : waiter = .locking ∨ waiter = .woken) : Meets total order { st with waiter } := by
  apply waiter_meets total order st meets st.mutex waiter rest (fun _ => Iff.rfl)
  · rw [← meets.waiting] at idle
    exact ⟨fun own => absurd own idle, fun same => by rcases lax with rfl | rfl <;> rcases same with same | same <;> cases same⟩
  · exact fun same => by rcases lax with rfl | rfl <;> cases same
  · exact fun same => by rcases lax with rfl | rfl <;> cases same

end

-- Everything a step can be.
inductive Moved {W : Type u} [DecidableEq W] (total : Nat) (st : State W) : Action W → State W → Prop
  | begin (waiter : st.waiter = .launching []) : Moved total st .waiter { st with waiter := .locking }
  | launch (w : W) (rest : List W) (waiter : st.waiter = .launching (w :: rest)) :
      Moved total st .waiter (move w .preparing { st with waiter := .launching rest })
  | acquire (free : st.mutex = none) (waiter : st.waiter = .locking ∨ st.waiter = .woken) :
      Moved total st .waiter { st with mutex := some .waiter, waiter := .testing }
  | pass (waiter : st.waiter = .testing) (full : st.ready = total) : Moved total st .waiter { st with waiter := .passed }
  | sleep (waiter : st.waiter = .testing) (short : st.ready ≠ total) :
      Moved total st .waiter { st with mutex := none, waiter := .sleeping }
  | prepare (w : W) (phase : st.phase w = .preparing) (free : st.mutex = none) :
      Moved total st (.worker w) (move w .raising { st with mutex := some (.worker w) })
  | raise (w : W) (phase : st.phase w = .raising) : Moved total st (.worker w) (move w .raised { st with ready := st.ready + 1 })
  | release (w : W) (phase : st.phase w = .raised) : Moved total st (.worker w) (move w .notifying { st with mutex := none })
  | notify (w : W) (phase : st.phase w = .notifying) :
      Moved total st (.worker w) (move w .running { st with waiter := wake st.waiter })
  | spurious (waiter : st.waiter = .sleeping) : Moved total st .spurious { st with waiter := .woken }

section

variable {W : Type u} [DecidableEq W] (total : Nat) (order : List W)

theorem waiter_moved (st next : State W) (taken : waiterStep total st = some next) : Moved total st .waiter next := by
  rw [waiterStep] at taken
  cases waiter : st.waiter with
  | launching left =>
      cases left with
      | nil =>
          rw [waiter] at taken
          exact Option.some.inj taken ▸ .begin waiter
      | cons w rest =>
          rw [waiter] at taken
          exact Option.some.inj taken ▸ .launch w rest waiter
  | locking =>
      rw [waiter] at taken
      obtain ⟨held, locked, same⟩ := Option.map_eq_some_iff.mp taken
      obtain ⟨free, rfl⟩ := lock_free .waiter st held locked
      exact same ▸ .acquire free (.inl waiter)
  | testing =>
      rw [waiter] at taken
      by_cases full : st.ready = total
      · exact Option.some.inj ((if_pos full).symm.trans taken) ▸ .pass waiter full
      · exact Option.some.inj ((if_neg full).symm.trans taken) ▸ .sleep waiter full
  | sleeping =>
      rw [waiter] at taken
      cases taken
  | woken =>
      rw [waiter] at taken
      obtain ⟨held, locked, same⟩ := Option.map_eq_some_iff.mp taken
      obtain ⟨free, rfl⟩ := lock_free .waiter st held locked
      exact same ▸ .acquire free (.inr waiter)
  | passed =>
      rw [waiter] at taken
      cases taken

theorem worker_moved (w : W) (st next : State W) (taken : workerStep w st = some next) : Moved total st (.worker w) next := by
  rw [workerStep] at taken
  cases phase : st.phase w with
  | absent =>
      rw [phase] at taken
      cases taken
  | preparing =>
      rw [phase] at taken
      obtain ⟨held, locked, same⟩ := Option.map_eq_some_iff.mp taken
      obtain ⟨free, rfl⟩ := lock_free (.worker w) st held locked
      exact same ▸ .prepare w phase free
  | raising =>
      rw [phase] at taken
      exact Option.some.inj taken ▸ .raise w phase
  | raised =>
      rw [phase] at taken
      exact Option.some.inj taken ▸ .release w phase
  | notifying =>
      rw [phase] at taken
      exact Option.some.inj taken ▸ .notify w phase
  | running =>
      rw [phase] at taken
      cases taken

theorem step_moved (st next : State W) (action : Action W) (taken : step total st action = some next) :
    Moved total st action next := by
  cases action with
  | waiter => exact waiter_moved total st next taken
  | worker w => exact worker_moved total w st next taken
  | spurious =>
      rw [step] at taken
      cases waiter : st.waiter with
      | sleeping =>
          rw [waiter] at taken
          exact Option.some.inj taken ▸ .spurious waiter
      | _ =>
          rw [waiter] at taken
          cases taken

omit [DecidableEq W] in
theorem initial_meets : Meets total order (initial order) := by
  refine ⟨fun w => ?_, ?_, ?_, ⟨[], rfl, fun w => ?_⟩, (fun same => nomatch same), (fun same => nomatch same)⟩
  · simp [initial]
  · simp [initial]
  · exact (weigh_level Phase.announced order _ 0 fun _ _ => rfl).symm
  · simp [initial]

theorem step_meets (distinct : order.Nodup) (st next : State W) (action : Action W) (meets : Meets total order st)
    (moved : Moved total st action next) : Meets total order next := by
  cases moved with
  | begin waiter => exact idle_meets total order st meets .locking (by rw [waiter]; rfl) (by rw [waiter]; simp) (.inl rfl)
  | launch w rest waiter => exact (launch_meets total order distinct st meets w rest waiter).1
  | acquire free waiter =>
      have launched : st.waiter.rest = [] := by rcases waiter with same | same <;> rw [same] <;> rfl
      exact acquire_meets total order st meets free launched
  | pass waiter full => exact (test_meets total order st meets waiter).1 full
  | sleep waiter short => exact (test_meets total order st meets waiter).2 short
  | prepare w phase free => exact prepare_meets total order distinct st meets w phase free
  | raise w phase => exact raise_meets total order distinct st meets w phase
  | release w phase => exact release_meets total order distinct st meets w phase
  | notify w phase => exact notify_meets total order distinct st meets w phase
  | spurious waiter => exact idle_meets total order st meets .woken (by rw [waiter]; rfl) (by rw [waiter]; simp) (.inr rfl)

theorem run_meets (distinct : order.Nodup) (actions : List (Action W)) (st : State W) (reached : run total order actions = some st) :
    Meets total order st := by
  induction actions using List.reverseRecOn generalizing st with
  | nil =>
      cases reached
      exact initial_meets total order
  | append_singleton past action ih =>
      rw [run, List.foldlM_append] at reached
      obtain ⟨middle, before, after⟩ := Option.bind_eq_some_iff.mp reached
      obtain ⟨next, taken, same⟩ := Option.bind_eq_some_iff.mp after
      cases same
      exact step_meets total order distinct middle st action (ih middle before) (step_moved total middle st action taken)

end

def Action.isSpurious {W : Type u} : Action W → Bool
  | .spurious => true
  | _ => false

section

variable {W : Type u} [DecidableEq W] (total : Nat) (order : List W)

def stepsLeft (st : State W) : Nat := weigh Phase.left order st.phase + st.waiter.left

omit [DecidableEq W] in
theorem initial_left : stepsLeft order (initial order) = 7 * order.length + 3 := by
  rw [stepsLeft, weigh_level Phase.left order (initial order).phase 6 fun _ _ => rfl]
  change order.length * 6 + (order.length + 3) = 7 * order.length + 3
  omega

theorem left_move (distinct : order.Nodup) (st : State W) (w : W) (next : Phase) (member : w ∈ order) :
    weigh Phase.left order (Function.update st.phase w next) + (st.phase w).left = weigh Phase.left order st.phase + next.left :=
  weigh_update Phase.left order distinct st.phase w next member

omit [DecidableEq W] in
theorem wake_left (waiter : Waiter W) : (wake waiter).left ≤ waiter.left + 2 := by
  cases waiter <;> simp [wake, Waiter.left]

-- Every step but a spurious wakeup brings the end nearer.
theorem step_left (distinct : order.Nodup) (st next : State W) (action : Action W) (meets : Meets total order st)
    (moved : Moved total st action next) :
    stepsLeft order next + (if action.isSpurious then 0 else 1) ≤ stepsLeft order st + if action.isSpurious then 2 else 0 := by
  have worker : ∀ (w : W) (before after : Phase), st.phase w = before → before ≠ .absent →
      weigh Phase.left order (Function.update st.phase w after) + before.left = weigh Phase.left order st.phase + after.left := by
    intro w before after phase present
    rw [← phase]
    rw [← phase] at present
    exact left_move order distinct st w after (present_listed total order st meets w present)
  cases moved with
  | begin waiter => simp [stepsLeft, waiter, Waiter.left, Action.isSpurious]
  | launch w rest waiter =>
      obtain ⟨_, absent, member⟩ := launch_meets total order distinct st meets w rest waiter
      have level := left_move order distinct st w .preparing member
      rw [absent] at level
      simp only [Phase.left] at level
      simp only [stepsLeft, move, waiter, Waiter.left, Action.isSpurious, List.length_cons, Bool.false_eq_true, if_false]
      omega
  | acquire free waiter =>
      have two : stepsLeft order st = weigh Phase.left order st.phase + 2 := by
        rcases waiter with same | same <;> rw [stepsLeft, same] <;> rfl
      rw [two]
      simp only [stepsLeft, Waiter.left, Action.isSpurious, Bool.false_eq_true, if_false]
      omega
  | pass waiter full => simp [stepsLeft, waiter, Waiter.left, Action.isSpurious]
  | sleep waiter short => simp [stepsLeft, waiter, Waiter.left, Action.isSpurious]
  | prepare w phase free =>
      have level := worker w .preparing .raising phase (by decide)
      simp only [Phase.left] at level
      simp only [stepsLeft, move, Action.isSpurious, Bool.false_eq_true, if_false]
      omega
  | raise w phase =>
      have level := worker w .raising .raised phase (by decide)
      simp only [Phase.left] at level
      simp only [stepsLeft, move, Action.isSpurious, Bool.false_eq_true, if_false]
      omega
  | release w phase =>
      have level := worker w .raised .notifying phase (by decide)
      simp only [Phase.left] at level
      simp only [stepsLeft, move, Action.isSpurious, Bool.false_eq_true, if_false]
      omega
  | notify w phase =>
      have level := worker w .notifying .running phase (by decide)
      have woken := wake_left st.waiter
      simp only [Phase.left] at level
      simp only [stepsLeft, move, Action.isSpurious, Bool.false_eq_true, if_false]
      omega
  | spurious waiter => simp [stepsLeft, waiter, Waiter.left, Action.isSpurious]

theorem run_left (distinct : order.Nodup) (actions : List (Action W)) (st : State W) (reached : run total order actions = some st) :
    stepsLeft order st + actions.countP (fun a => !a.isSpurious) ≤ 7 * order.length + 3 + 2 * actions.countP Action.isSpurious := by
  induction actions using List.reverseRecOn generalizing st with
  | nil =>
      cases reached
      rw [initial_left]
      simp
  | append_singleton past action ih =>
      rw [run, List.foldlM_append] at reached
      obtain ⟨middle, before, after⟩ := Option.bind_eq_some_iff.mp reached
      obtain ⟨next, taken, same⟩ := Option.bind_eq_some_iff.mp after
      cases same
      have nearer := step_left total order distinct middle st action (run_meets total order distinct past middle before)
        (step_moved total middle st action taken)
      have earlier := ih middle before
      rw [List.countP_append, List.countP_append, List.countP_singleton, List.countP_singleton]
      cases spurious : action.isSpurious with
      | true =>
          simp only [spurious, if_true, Bool.not_true, Bool.false_eq_true, if_false] at nearer ⊢
          omega
      | false =>
          simp only [spurious, Bool.false_eq_true, if_false, Bool.not_false, if_true] at nearer ⊢
          omega

omit [DecidableEq W] in
-- Past the wait every worker has announced itself and left the mutex.
theorem passed_announced (st : State W) (meets : Meets order.length order st) (passed : st.waiter = .passed) :
    ∀ w ∈ order, st.phase w = .notifying ∨ st.phase w = .running := by
  intro w member
  have own : st.mutex = some .waiter := meets.waiting.mpr (.inr passed)
  have full : weigh Phase.announced order st.phase = order.length := meets.ready.symm.trans (meets.passed passed)
  have announced := announced_all order st.phase full w member
  have apart : ¬ (st.phase w = .raising ∨ st.phase w = .raised) := by
    rw [← meets.working w, own]
    exact fun same => nomatch same
  cases phase : st.phase w with
  | notifying => exact .inl rfl
  | running => exact .inr rfl
  | raised => exact absurd (.inr phase) apart
  | _ =>
      rw [phase] at announced
      cases announced

-- Nobody can move: the waiter is through and every worker runs.
theorem blocked_through (st : State W) (meets : Meets order.length order st) (waiter : waiterStep order.length st = none)
    (workers : ∀ w, workerStep w st = none) : st.waiter = .passed ∧ ∀ w ∈ order, st.phase w = .running := by
  have still : ∀ w, st.phase w = .absent ∨ st.phase w = .running ∨ (st.phase w = .preparing ∧ st.mutex ≠ none) := by
    intro w
    have blocked := workers w
    rw [workerStep] at blocked
    cases phase : st.phase w with
    | absent => exact .inl rfl
    | running => exact .inr (.inl rfl)
    | preparing =>
        refine .inr (.inr ⟨rfl, fun free => ?_⟩)
        rw [phase] at blocked
        simp [lock, free] at blocked
    | _ =>
        rw [phase] at blocked
        cases blocked
  have unheld : ∀ w, st.mutex ≠ some (.worker w) := by
    intro w held
    rcases (meets.working w).mp held with phase | phase <;> rcases still w with same | same | ⟨same, _⟩ <;> rw [phase] at same <;> cases same
  have settled : st.mutex ≠ some .waiter → st.mutex = none := by
    intro other
    cases held : st.mutex with
    | none => rfl
    | some holder =>
        cases holder with
        | waiter => exact absurd held other
        | worker w => exact absurd held (unheld w)
  rw [waiterStep] at waiter
  cases place : st.waiter with
  | launching left =>
      rw [place] at waiter
      cases left <;> cases waiter
  | testing =>
      rw [place] at waiter
      by_cases full : st.ready = order.length
      · exact absurd ((if_pos full).symm.trans waiter) (by simp)
      · exact absurd ((if_neg full).symm.trans waiter) (by simp)
  | passed =>
      refine ⟨rfl, fun w member => ?_⟩
      rcases passed_announced order st meets place w member with phase | phase
      · rcases still w with same | same | ⟨same, _⟩ <;> rw [phase] at same <;> cases same
      · exact phase
  | sleeping =>
      have free : st.mutex = none := settled fun own => by
        rcases meets.waiting.mp own with same | same <;> rw [place] at same <;> cases same
      -- Launched and not stopped at the mutex, every worker has announced itself.
      have running : ∀ w ∈ order, st.phase w = .running := by
        intro w member
        obtain ⟨done, split, each⟩ := meets.begun
        have whole : order = done := by rw [split, place]; exact List.append_nil done
        rcases still w with same | same | ⟨_, held⟩
        · exact absurd same ((each w).mpr (whole ▸ member))
        · exact same
        · exact absurd free held
      have full : st.ready = order.length := by
        rw [meets.ready, weigh_level Phase.announced order st.phase 1 fun w member => by rw [running w member]; rfl, Nat.mul_one]
      obtain ⟨w, owes⟩ := meets.asleep place full
      rcases owes with phase | phase <;> rcases still w with same | same | ⟨same, _⟩ <;> rw [phase] at same <;> cases same
  | _ =>
      have free : st.mutex = none := settled fun own => by
        rcases meets.waiting.mp own with same | same <;> rw [place] at same <;> cases same
      rw [place] at waiter
      simp [lock, free] at waiter

end

end Rendezvous
