import Mathlib.Data.Nat.Basic
import Mathlib.Algebra.Order.Ring.Int

set_option autoImplicit false

namespace SpectralLine

-- tryWait(), wait() and wait(timeout_usecs); wait() has the timeout -1.
inductive WaitCall where
  | tryWait
  | wait (timeoutUsecs : Int)

-- The waiting thread stands before the atomic operation of its case.
inductive Waiter where
  | idle
  | tryLoad (call : WaitCall)
  | tryTake
  | spin (timeoutUsecs : Int) (left : Nat)
  | spinTake
  | decrement (timeoutUsecs : Int)
  | blocked
  | restore
  | retake
  | tryKernel
  | returned (acquired : Bool)

inductive Signaller where
  | idle
  | adding
  | posting
deriving DecidableEq

-- One thread waits and one signals. `kernel` is the count of m_sema.
structure LightweightSemaphore where
  count : Int
  kernel : Nat
  waiter : Waiter
  signaller : Signaller

namespace LightweightSemaphore

def initial (initialCount : Nat) : LightweightSemaphore := ⟨initialCount, 0, .idle, .idle⟩

def spinCount : Nat := 1024

def callWait (call : WaitCall) (st : LightweightSemaphore) : Option LightweightSemaphore :=
  match st.waiter with
  | .idle => some { st with waiter := .tryLoad call }
  | _ => none

-- One atomic operation of tryWait or waitWithPartialSpinning; `none` while the
-- kernel semaphore blocks. `gaveUp` is a kernel wait that returns false.
def waitStep (gaveUp : Bool) (st : LightweightSemaphore) : Option LightweightSemaphore :=
  match st.waiter with
  | .idle => none
  | .tryLoad call =>
      if 0 < st.count then some { st with waiter := .tryTake }
      else
        match call with
        | .tryWait => some { st with waiter := .returned false }
        | .wait timeoutUsecs => some { st with waiter := .spin timeoutUsecs (spinCount - 1) }
  | .tryTake => some { st with count := st.count - 1, waiter := .returned true }
  | .spin timeoutUsecs left =>
      if 0 < st.count then some { st with waiter := .spinTake }
      else
        match left with
        | 0 => some { st with waiter := .decrement timeoutUsecs }
        | left + 1 => some { st with waiter := .spin timeoutUsecs left }
  | .spinTake => some { st with count := st.count - 1, waiter := .returned true }
  | .decrement timeoutUsecs =>
      some { st with
        count := st.count - 1
        waiter := if 0 < st.count then .returned true else if timeoutUsecs = 0 then .restore else .blocked }
  | .blocked =>
      if gaveUp then some { st with waiter := .restore }
      else if 0 < st.kernel then some { st with kernel := st.kernel - 1, waiter := .returned true }
      else none
  | .restore => some { st with count := st.count + 1, waiter := if st.count < 0 then .returned false else .retake }
  | .retake => some { st with count := st.count - 1, waiter := if 0 < st.count then .tryKernel else .restore }
  | .tryKernel =>
      if 0 < st.kernel then some { st with kernel := st.kernel - 1, waiter := .returned true }
      else some { st with waiter := .restore }
  | .returned _ => none

def finishWait (st : LightweightSemaphore) : Option (Bool × LightweightSemaphore) :=
  match st.waiter with
  | .returned acquired => some (acquired, { st with waiter := .idle })
  | _ => none

def callSignal (st : LightweightSemaphore) : Option LightweightSemaphore :=
  match st.signaller with
  | .idle => some { st with signaller := .adding }
  | _ => none

def signalStep (st : LightweightSemaphore) : Option LightweightSemaphore :=
  match st.signaller with
  | .idle => none
  | .adding =>
      some { st with count := st.count + 1, signaller := if st.count < 0 then .posting else .idle }
  | .posting => some { st with kernel := st.kernel + 1, signaller := .idle }

def availableApprox (st : LightweightSemaphore) : Nat := if 0 < st.count then st.count.toNat else 0

-- Wakeups sent, or about to be sent, that nobody took.
def debt (st : LightweightSemaphore) : Nat := st.kernel + if st.signaller = .posting then 1 else 0

-- What m_count and the kernel semaphore hold when `available` tokens are there.
def Balanced (st : LightweightSemaphore) (available : Nat) : Prop :=
  match st.waiter with
  | .blocked => st.count = available - 1 ∧ st.debt = min available 1
  | .restore => st.count = available - 1 ∧ st.debt = min available 1
  | .retake => st.count = available ∧ 1 ≤ available ∧ st.debt = 1
  | .tryKernel => st.count = available - 1 ∧ 1 ≤ available ∧ st.debt = 1
  | .tryTake => st.count = available ∧ 1 ≤ available ∧ st.debt = 0
  | .spinTake => st.count = available ∧ 1 ≤ available ∧ st.debt = 0
  | _ => st.count = available ∧ st.debt = 0

-- The outcome of one step of the waiting thread.
inductive Waited (st after : LightweightSemaphore) (available : Nat) : Prop
  | acquired (token : 1 ≤ available) (returns : after.waiter = .returned true) (balanced : after.Balanced (available - 1))
  | refused (none : available = 0) (returns : after.waiter = .returned false) (balanced : after.Balanced 0)
  | working (goes : after.waiter ≠ .idle ∧ ∀ acquired, after.waiter ≠ .returned acquired) (balanced : after.Balanced available)

-- The outcome a finished wait holds ready.
def granted : Waiter → Nat
  | .returned true => 1
  | _ => 0

def refused : Waiter → Bool
  | .returned false => true
  | _ => false

theorem undecided (waiter : Waiter) (working : ∀ acquired, waiter ≠ .returned acquired) :
    granted waiter = 0 ∧ refused waiter = false := by
  cases waiter with
  | returned acquired => exact absurd rfl (working acquired)
  | _ => exact ⟨rfl, rfl⟩

theorem initial_balanced (initialCount : Nat) : (initial initialCount).Balanced initialCount := ⟨rfl, rfl⟩

theorem call_wait_balanced (st after : LightweightSemaphore) (call : WaitCall) (available : Nat)
    (balanced : st.Balanced available) (called : st.callWait call = some after) :
    after.Balanced available ∧ after.waiter = .tryLoad call ∧ after.signaller = st.signaller := by
  cases waiter : st.waiter with
  | idle =>
      simp only [callWait, waiter, Option.some.injEq] at called
      subst called
      simp only [Balanced, waiter] at balanced
      exact ⟨balanced, rfl, rfl⟩
  | _ => simp [callWait, waiter] at called

theorem wait_signaller (st after : LightweightSemaphore) (gaveUp : Bool) (taken : st.waitStep gaveUp = some after) :
    after.signaller = st.signaller := by
  unfold waitStep at taken
  split at taken
  all_goals (try split_ifs at taken) <;> (try split at taken) <;> cases taken <;> rfl

theorem wait_step_working (st after : LightweightSemaphore) (gaveUp : Bool) (taken : st.waitStep gaveUp = some after)
    (acquired : Bool) : st.waiter ≠ .returned acquired := by
  intro returned
  simp [waitStep, returned] at taken

-- One token leaves for each wait that returns true and none for one that
-- returns false, which saw no token.
theorem wait_balanced (st after : LightweightSemaphore) (gaveUp : Bool) (available : Nat)
    (balanced : st.Balanced available) (taken : st.waitStep gaveUp = some after) : Waited st after available := by
  cases waiter : st.waiter with
  | idle => simp [waitStep, waiter] at taken
  | returned acquired => simp [waitStep, waiter] at taken
  | tryLoad call =>
      simp only [Balanced, waiter] at balanced
      obtain ⟨count, debt⟩ := balanced
      by_cases some : 0 < st.count
      · simp only [waitStep, waiter, if_pos some, Option.some.injEq] at taken
        subst taken
        exact .working (by simp) ⟨count, by omega, debt⟩
      · cases call with
        | tryWait =>
            simp only [waitStep, waiter, if_neg some, Option.some.injEq] at taken
            subst taken
            exact .refused (by omega) rfl ⟨by simp only; omega, debt⟩
        | wait timeoutUsecs =>
            simp only [waitStep, waiter, if_neg some, Option.some.injEq] at taken
            subst taken
            exact .working (by simp) ⟨count, debt⟩
  | tryTake =>
      simp only [Balanced, waiter] at balanced
      obtain ⟨count, token, debt⟩ := balanced
      simp only [waitStep, waiter, Option.some.injEq] at taken
      subst taken
      exact .acquired token rfl ⟨by simp only; omega, debt⟩
  | spin timeoutUsecs left =>
      simp only [Balanced, waiter] at balanced
      obtain ⟨count, debt⟩ := balanced
      by_cases some : 0 < st.count
      · simp only [waitStep, waiter, if_pos some, Option.some.injEq] at taken
        subst taken
        exact .working (by simp) ⟨count, by omega, debt⟩
      · cases left with
        | zero =>
            simp only [waitStep, waiter, if_neg some, Option.some.injEq] at taken
            subst taken
            exact .working (by simp) ⟨count, debt⟩
        | succ left =>
            simp only [waitStep, waiter, if_neg some, Option.some.injEq] at taken
            subst taken
            exact .working (by simp) ⟨count, debt⟩
  | spinTake =>
      simp only [Balanced, waiter] at balanced
      obtain ⟨count, token, debt⟩ := balanced
      simp only [waitStep, waiter, Option.some.injEq] at taken
      subst taken
      exact .acquired token rfl ⟨by simp only; omega, debt⟩
  | decrement timeoutUsecs =>
      simp only [Balanced, waiter] at balanced
      obtain ⟨count, debt⟩ := balanced
      simp only [waitStep, waiter, Option.some.injEq] at taken
      by_cases some : 0 < st.count
      · rw [if_pos some] at taken
        subst taken
        exact .acquired (by omega) rfl ⟨by simp only; omega, debt⟩
      · have none : available = 0 := by omega
        have registered : st.count - 1 = available - 1 ∧ st.debt = min available 1 := ⟨by omega, by omega⟩
        rw [if_neg some] at taken
        by_cases poll : timeoutUsecs = 0
        · rw [if_pos poll] at taken
          subst taken
          exact .working (by simp) registered
        · rw [if_neg poll] at taken
          subst taken
          exact .working (by simp) registered
  | blocked =>
      simp only [Balanced, waiter] at balanced
      obtain ⟨count, debt⟩ := balanced
      cases gaveUp with
      | true =>
          simp only [waitStep, waiter, if_true, Option.some.injEq] at taken
          subst taken
          exact .working (by simp) ⟨count, debt⟩
      | false =>
          by_cases woken : 0 < st.kernel
          · simp only [waitStep, waiter, if_pos woken, Bool.false_eq_true, if_false, Option.some.injEq] at taken
            subst taken
            simp only [LightweightSemaphore.debt] at debt
            exact .acquired (by omega) rfl ⟨by simp only; omega, by simp only [LightweightSemaphore.debt]; omega⟩
          · simp [waitStep, waiter, woken] at taken
  | restore =>
      simp only [Balanced, waiter] at balanced
      obtain ⟨count, debt⟩ := balanced
      simp only [waitStep, waiter, Option.some.injEq] at taken
      by_cases unsignalled : st.count < 0
      · rw [if_pos unsignalled] at taken
        subst taken
        have none : available = 0 := by omega
        exact .refused none rfl ⟨by simp only; omega, debt.trans (by omega)⟩
      · rw [if_neg unsignalled] at taken
        subst taken
        exact .working (by simp) ⟨by simp only; omega, by omega, debt.trans (by omega)⟩
  | retake =>
      simp only [Balanced, waiter] at balanced
      obtain ⟨count, token, debt⟩ := balanced
      simp only [waitStep, waiter, Option.some.injEq] at taken
      rw [if_pos (by omega)] at taken
      subst taken
      exact .working (by simp) ⟨by simp only; omega, token, debt⟩
  | tryKernel =>
      simp only [Balanced, waiter] at balanced
      obtain ⟨count, token, debt⟩ := balanced
      by_cases woken : 0 < st.kernel
      · simp only [waitStep, waiter, if_pos woken, Option.some.injEq] at taken
        subst taken
        simp only [LightweightSemaphore.debt] at debt
        exact .acquired token rfl ⟨by simp only; omega, by simp only [LightweightSemaphore.debt]; omega⟩
      · simp only [waitStep, waiter, if_neg woken, Option.some.injEq] at taken
        subst taken
        exact .working (by simp) ⟨count, debt.trans (by omega)⟩

theorem finish_wait_balanced (st after : LightweightSemaphore) (acquired : Bool) (available : Nat)
    (balanced : st.Balanced available) (finished : st.finishWait = some (acquired, after)) :
    st.waiter = .returned acquired ∧ after.waiter = .idle ∧ after.signaller = st.signaller ∧ after.Balanced available := by
  cases waiter : st.waiter with
  | returned result =>
      simp only [finishWait, waiter, Option.some.injEq, Prod.mk.injEq] at finished
      obtain ⟨rfl, rfl⟩ := finished
      simp only [Balanced, waiter] at balanced
      exact ⟨rfl, rfl, rfl, balanced⟩
  | _ => simp [finishWait, waiter] at finished

theorem call_signal_balanced (st after : LightweightSemaphore) (available : Nat) (balanced : st.Balanced available)
    (called : st.callSignal = some after) :
    after.Balanced available ∧ after.signaller = .adding ∧ after.waiter = st.waiter := by
  cases signaller : st.signaller with
  | idle =>
      simp only [callSignal, signaller, Option.some.injEq] at called
      subst called
      have same : debt { st with signaller := .adding } = st.debt := by simp [debt, signaller]
      refine ⟨?_, rfl, rfl⟩
      simp only [Balanced, same] at balanced ⊢
      exact balanced
  | _ => simp [callSignal, signaller] at called

-- A signal adds its token with the first of its two operations, and the second
-- wakes a waiter that has registered.
theorem adding_balanced (st after : LightweightSemaphore) (available : Nat) (balanced : st.Balanced available)
    (adding : st.signaller = .adding) (taken : st.signalStep = some after) :
    after.Balanced (available + 1) ∧ after.signaller ≠ .adding ∧ after.waiter = st.waiter := by
  simp only [signalStep, adding, Option.some.injEq] at taken
  have before : st.debt = st.kernel := by simp [debt, adding]
  have next : after.debt = st.kernel + if st.count < 0 then 1 else 0 := by
    subst taken
    by_cases registered : st.count < 0
    · simp [debt, registered]
    · simp [debt, registered]
  have count : after.count = st.count + 1 := by rw [← taken]
  have waiter : after.waiter = st.waiter := by rw [← taken]
  have signaller : after.signaller ≠ .adding := by
    subst taken
    by_cases registered : st.count < 0
    · simp [registered]
    · simp [registered]
  refine ⟨?_, signaller, waiter⟩
  simp only [Balanced, waiter, count, next, before] at balanced ⊢
  split at balanced
  · exact ⟨by omega, by split_ifs <;> omega⟩
  · exact ⟨by omega, by split_ifs <;> omega⟩
  · exact ⟨by omega, by omega, by rw [if_neg (by omega)]; omega⟩
  · exact ⟨by omega, by omega, by rw [if_neg (by omega)]; omega⟩
  · exact ⟨by omega, by omega, by rw [if_neg (by omega)]; omega⟩
  · exact ⟨by omega, by omega, by rw [if_neg (by omega)]; omega⟩
  · exact ⟨by omega, by rw [if_neg (by omega)]; omega⟩

theorem posting_balanced (st after : LightweightSemaphore) (available : Nat) (balanced : st.Balanced available)
    (posting : st.signaller = .posting) (taken : st.signalStep = some after) :
    after.Balanced available ∧ after.signaller = .idle ∧ after.waiter = st.waiter := by
  simp only [signalStep, posting, Option.some.injEq] at taken
  have same : after.debt = st.debt := by
    rw [← taken]
    simp [debt, posting]
  have count : after.count = st.count := by rw [← taken]
  have waiter : after.waiter = st.waiter := by rw [← taken]
  refine ⟨?_, by rw [← taken], waiter⟩
  simp only [Balanced, waiter, count, same] at balanced ⊢
  exact balanced

-- The asserts of signal, and that m_count stays in the range of the tokens.
theorem balanced_count (st : LightweightSemaphore) (available : Nat) (balanced : st.Balanced available) :
    -1 ≤ st.count ∧ st.count ≤ available := by
  simp only [Balanced] at balanced
  split at balanced
  all_goals omega

-- A token that is there is never slept through: a blocked waiter can take it,
-- or the signaller is about to post.
theorem balanced_wakes (st : LightweightSemaphore) (available : Nat) (balanced : st.Balanced available)
    (token : 1 ≤ available) (blocked : st.waiter = .blocked) : 0 < st.kernel ∨ st.signaller = .posting := by
  simp only [Balanced, blocked, debt] at balanced
  obtain ⟨_, owed⟩ := balanced
  by_cases posting : st.signaller = .posting
  · exact Or.inr posting
  · rw [if_neg posting] at owed
    exact Or.inl (by omega)

-- The waiting thread only ever stops in the kernel.
theorem wait_step_some (st : LightweightSemaphore) (gaveUp : Bool) (idle : st.waiter ≠ .idle)
    (working : ∀ acquired, st.waiter ≠ .returned acquired) (awake : st.waiter = .blocked → 0 < st.kernel) :
    ∃ after, st.waitStep gaveUp = some after := by
  cases waiter : st.waiter with
  | idle => exact absurd waiter idle
  | returned acquired => exact absurd waiter (working acquired)
  | blocked =>
      simp only [waitStep, waiter, awake waiter, if_true]
      split
      · exact ⟨_, rfl⟩
      · exact ⟨_, rfl⟩
  | tryLoad call =>
      simp only [waitStep, waiter]
      split
      · exact ⟨_, rfl⟩
      · cases call with
        | tryWait => exact ⟨_, rfl⟩
        | wait timeoutUsecs => exact ⟨_, rfl⟩
  | spin timeoutUsecs left =>
      simp only [waitStep, waiter]
      split
      · exact ⟨_, rfl⟩
      · cases left with
        | zero => exact ⟨_, rfl⟩
        | succ left => exact ⟨_, rfl⟩
  | tryKernel =>
      simp only [waitStep, waiter]
      split
      · exact ⟨_, rfl⟩
      · exact ⟨_, rfl⟩
  | tryTake => exact ⟨_, by simp only [waitStep, waiter]; rfl⟩
  | spinTake => exact ⟨_, by simp only [waitStep, waiter]; rfl⟩
  | decrement timeoutUsecs => exact ⟨_, by simp only [waitStep, waiter]; rfl⟩
  | restore => exact ⟨_, by simp only [waitStep, waiter]; rfl⟩
  | retake => exact ⟨_, by simp only [waitStep, waiter]; rfl⟩

-- A wait that is not finished and cannot go on has no token, unless its wakeup
-- is on the way.
theorem wait_stuck (st : LightweightSemaphore) (available : Nat) (balanced : st.Balanced available) (awake : st.waiter ≠ .idle)
    (unfinished : st.finishWait = none) (stuck : st.waitStep false = none) :
    granted st.waiter = 0 ∧ (st.signaller = .posting ∨ available = 0) := by
  have working : ∀ acquired, st.waiter ≠ .returned acquired := by
    intro acquired returned
    simp [finishWait, returned] at unfinished
  refine ⟨(undecided st.waiter working).1, ?_⟩
  by_cases asleep : st.waiter = .blocked ∧ st.kernel = 0
  · by_cases token : 1 ≤ available
    · rcases balanced_wakes st available balanced token asleep.1 with woken | posting
      · omega
      · exact Or.inl posting
    · exact Or.inr (by omega)
  · obtain ⟨after, goes⟩ := wait_step_some st false awake working fun blocked =>
      Nat.pos_of_ne_zero fun empty => asleep ⟨blocked, empty⟩
    rw [goes] at stuck
    cases stuck

end LightweightSemaphore

end SpectralLine
