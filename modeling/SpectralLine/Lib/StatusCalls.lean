import Mathlib.Tactic.TypeStar
import Mathlib.Data.Nat.Notation
import Mathlib.Tactic.ByContra

set_option autoImplicit false

namespace StatusCalls

-- A failure of one call: the status it leaves is code + 1, and its effect may
-- have taken place.
structure Fault where
  code : ℕ
  applied : Bool
deriving DecidableEq, Repr

-- A library whose routines share a status word and do nothing once it is set.
structure Session (S : Type*) where
  state : S
  status : ℕ
  calls : ℕ

section

variable {S C : Type*} (apply : C → S → S) (faults : ℕ → Option Fault)

def perform (session : Session S) (call : C) : Session S :=
  if 0 < session.status then session
  else
    match faults session.calls with
    | none => { session with state := apply call session.state, calls := session.calls + 1 }
    | some fault => {
        state := if fault.applied then apply call session.state else session.state
        status := fault.code + 1
        calls := session.calls + 1 }

def performAll (session : Session S) (calls : List C) : Session S := calls.foldl (perform apply faults) session

-- The next calls meet no fault.
def Clear (start count : ℕ) : Prop := ∀ k < count, faults (start + k) = none

instance (start count : ℕ) : Decidable (Clear faults start count) :=
  inferInstanceAs (Decidable (∀ k < count, faults (start + k) = none))

theorem perform_stuck (session : Session S) (call : C) (stuck : 0 < session.status) :
    perform apply faults session call = session := by
  rw [perform, if_pos stuck]

theorem perform_all_stuck (session : Session S) (calls : List C) (stuck : 0 < session.status) :
    performAll apply faults session calls = session := by
  induction calls with
  | nil => rfl
  | cons call rest ih => rwa [performAll, List.foldl_cons, perform_stuck apply faults session call stuck]

theorem clear_cons (start count : ℕ) : Clear faults start (count + 1) ↔ faults start = none ∧ Clear faults (start + 1) count := by
  constructor
  · intro clear
    refine ⟨clear 0 (Nat.succ_pos count), fun k below => ?_⟩
    rw [Nat.add_right_comm]
    exact clear (k + 1) (Nat.succ_lt_succ below)
  · rintro ⟨first, later⟩ k below
    cases k with
    | zero => exact first
    | succ k =>
        have next := later k (Nat.lt_of_succ_lt_succ below)
        rwa [Nat.add_right_comm] at next

theorem clear_append (start first second : ℕ) :
    Clear faults start (first + second) ↔ Clear faults start first ∧ Clear faults (start + first) second := by
  induction first generalizing start with
  | zero =>
      rw [Nat.zero_add, Nat.add_zero]
      exact ⟨fun clear => ⟨(fun k below => nomatch below), clear⟩, fun both => both.2⟩
  | succ first ih =>
      rw [Nat.add_right_comm first, clear_cons, clear_cons, ih, Nat.add_right_comm start, Nat.add_assoc start]
      exact and_assoc.symm

-- Without a fault every call takes effect.
theorem perform_all_clear (session : Session S) (calls : List C) (ready : session.status = 0)
    (clear : Clear faults session.calls calls.length) :
    performAll apply faults session calls =
      { state := calls.foldl (fun state call => apply call state) session.state
        status := 0
        calls := session.calls + calls.length } := by
  induction calls generalizing session with
  | nil =>
      cases session
      cases ready
      rfl
  | cons call rest ih =>
      obtain ⟨first, later⟩ := (clear_cons faults _ _).mp clear
      have next : perform apply faults session call =
          { session with state := apply call session.state, calls := session.calls + 1 } := by
        rw [perform, if_neg (Nat.not_lt.mpr (Nat.le_of_eq ready)), first]
      rw [performAll, List.foldl_cons, next]
      refine (ih { session with state := apply call session.state, calls := session.calls + 1 } ready later).trans ?_
      rw [List.foldl_cons, List.length_cons, Nat.add_assoc, Nat.add_comm 1]

-- A fault among them leaves the status set.
theorem perform_all_fault (session : Session S) (calls : List C) (unclear : ¬ Clear faults session.calls calls.length) :
    0 < (performAll apply faults session calls).status := by
  induction calls generalizing session with
  | nil => exact absurd (fun k below => nomatch below) unclear
  | cons call rest ih =>
      rw [performAll, List.foldl_cons]
      by_cases stuck : 0 < session.status
      · rw [perform_stuck apply faults session call stuck, ← performAll, perform_all_stuck apply faults session rest stuck]
        exact stuck
      · cases first : faults session.calls with
        | none =>
            have next : perform apply faults session call =
                { session with state := apply call session.state, calls := session.calls + 1 } := by
              rw [perform, if_neg stuck, first]
            rw [next]
            exact ih _ fun later => unclear ((clear_cons faults _ _).mpr ⟨first, later⟩)
        | some fault =>
            have failed : 0 < (perform apply faults session call).status := by
              rw [perform, if_neg stuck, first]
              exact Nat.succ_pos fault.code
            rwa [← performAll, perform_all_stuck apply faults _ rest failed]

theorem perform_all_status (session : Session S) (calls : List C) (ready : session.status = 0) :
    (performAll apply faults session calls).status = 0 ↔ Clear faults session.calls calls.length := by
  constructor
  · intro fine
    by_contra unclear
    have failed := perform_all_fault apply faults session calls unclear
    rw [fine] at failed
    exact Nat.lt_irrefl 0 failed
  · intro clear
    rw [perform_all_clear apply faults session calls ready clear]

-- The status tells whether one of the calls so far has met a fault.
def Honest (session : Session S) : Prop := session.status = 0 ↔ Clear faults 0 session.calls

theorem perform_honest (session : Session S) (call : C) (honest : Honest faults session) :
    Honest faults (perform apply faults session call) := by
  rw [perform]
  by_cases stuck : 0 < session.status
  · rwa [if_pos stuck]
  · rw [if_neg stuck]
    have ready : session.status = 0 := Nat.eq_zero_of_not_pos stuck
    have past := honest.mp ready
    cases answer : faults session.calls with
    | none =>
        refine ⟨fun _ => (clear_append faults 0 session.calls 1).mpr ⟨past, ?_⟩, fun _ => ready⟩
        intro k below
        rw [Nat.lt_one_iff.mp below, Nat.zero_add]
        exact answer
    | some fault =>
        refine ⟨fun zero => absurd zero (Nat.succ_ne_zero fault.code), fun clear => ?_⟩
        have unmet := clear session.calls (Nat.lt_succ_self _)
        rw [Nat.zero_add, answer] at unmet
        cases unmet

theorem perform_all_honest (session : Session S) (calls : List C) (honest : Honest faults session) :
    Honest faults (performAll apply faults session calls) := by
  induction calls generalizing session with
  | nil => exact honest
  | cons call rest ih => exact ih _ (perform_honest apply faults session call honest)

theorem perform_all_append (session : Session S) (first second : List C) :
    performAll apply faults session (first ++ second) = performAll apply faults (performAll apply faults session first) second :=
  List.foldl_append

-- What every call keeps of the state, faults or not.
theorem perform_all_keeps (kept : S → Prop) (session : Session S) (calls : List C) (holds : kept session.state)
    (keeps : ∀ call ∈ calls, ∀ state, kept state → kept (apply call state)) :
    kept (performAll apply faults session calls).state := by
  induction calls generalizing session with
  | nil => exact holds
  | cons call rest ih =>
      refine ih _ ?_ fun other member => keeps other (List.mem_cons_of_mem _ member)
      have effect := keeps call List.mem_cons_self session.state holds
      rw [perform]
      by_cases stuck : 0 < session.status
      · rwa [if_pos stuck]
      · rw [if_neg stuck]
        cases faults session.calls with
        | none => exact effect
        | some fault =>
            by_cases applied : fault.applied
            · simpa only [if_pos applied] using effect
            · simpa only [if_neg applied] using holds

end

end StatusCalls
