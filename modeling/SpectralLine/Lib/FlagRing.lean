import SpectralLine.Lib.Handoff

set_option autoImplicit false

namespace FlagRing

open Handoff

universe u

variable {n : Nat} {Slot : Type u}

-- A producer fills the slots of a ring in turn and raises the flag of each; a
-- consumer waits for a flag, reads the slot as often as it likes, lowers the
-- flag and goes on. `log` records what each slot held when its flag was raised.
structure State (n : Nat) (Slot : Type u) where
  contents : Fin n → Slot
  used : Fin n → Bool
  idx : Fin n
  reading : Option (List Slot)
  log : List Slot
  delivered : List (List Slot)

inductive Action (Slot : Type u) where
  | write (value : Slot)
  | publish
  | observe
  | read
  | clear

section

variable (positive : 0 < n)

-- The producer works on the slot of the next log entry, and only while its
-- flag is down.
def step (st : State n Slot) : Action Slot → Option (State n Slot)
  | .write value =>
      let slot := entry positive st.log.length
      if st.used slot then none else some { st with contents := Function.update st.contents slot value }
  | .publish =>
      let slot := entry positive st.log.length
      if st.used slot then none
      else some { st with used := Function.update st.used slot true, log := st.log ++ [st.contents slot] }
  | .observe => if st.reading = none ∧ st.used st.idx then some { st with reading := some [] } else none
  | .read =>
      match st.reading with
      | none => none
      | some reads => some { st with reading := some (reads ++ [st.contents st.idx]) }
  | .clear =>
      match st.reading with
      | none => none
      | some reads =>
          some { st with
            used := Function.update st.used st.idx false
            idx := next st.idx
            reading := none
            delivered := st.delivered ++ [reads] }

end

-- The flags that are up are those of the published entries not yet taken.
structure Window (positive : 0 < n) (st : State n Slot) : Prop where
  idx : st.idx = entry positive st.delivered.length
  order : st.delivered.length ≤ st.log.length
  room : st.log.length ≤ st.delivered.length + n
  used : ∀ slot, st.used slot = true ↔ ∃ k, st.delivered.length ≤ k ∧ k < st.log.length ∧ slot = entry positive k
  kept : ∀ k, st.delivered.length ≤ k → k < st.log.length → st.log[k]? = some (st.contents (entry positive k))
  busy : ∀ reads, st.reading = some reads → st.delivered.length < st.log.length ∧
    ∀ s ∈ reads, st.log[st.delivered.length]? = some s
  past : ∀ (k : Nat) (reads : List Slot), st.delivered[k]? = some reads → ∀ s ∈ reads, st.log[k]? = some s

section

variable (positive : 0 < n)

def initial (contents : Fin n → Slot) : State n Slot := ⟨contents, fun _ => false, entry positive 0, none, [], []⟩

theorem initial_window (contents : Fin n → Slot) : Window positive (initial positive contents) := by
  constructor <;> simp [initial]

-- A slot whose flag is down is not one of those in the window.
theorem free_room (st : State n Slot) (window : Window positive st) (free : st.used (entry positive st.log.length) = false) :
    st.log.length < st.delivered.length + n ∧
    ∀ k, st.delivered.length ≤ k → k < st.log.length → entry positive k ≠ entry positive st.log.length := by
  have order := window.order
  have room := window.room
  have strict : st.log.length < st.delivered.length + n := by
    by_contra full
    have size : st.log.length = st.delivered.length + n := by omega
    have wraps : entry positive st.log.length = entry positive st.delivered.length := by
      apply Fin.ext
      simp only [entry, size, Nat.add_mod_right]
    have up := (window.used (entry positive st.log.length)).mpr ⟨st.delivered.length, Nat.le_refl _, by omega, wraps⟩
    rw [free] at up
    cases up
  exact ⟨strict, fun k low high => entry_distinct positive k _ high (by omega)⟩

theorem write_window (st : State n Slot) (value : Slot) (window : Window positive st)
    (free : st.used (entry positive st.log.length) = false) :
    Window positive { st with contents := Function.update st.contents (entry positive st.log.length) value } := by
  have apart := (free_room positive st window free).2
  refine ⟨window.idx, window.order, window.room, window.used, ?_, window.busy, window.past⟩
  intro k low high
  rw [window.kept k low high]
  exact congrArg some (Function.update_of_ne (apart k low high) _ _).symm

theorem publish_window (st : State n Slot) (window : Window positive st)
    (free : st.used (entry positive st.log.length) = false) :
    Window positive { st with
      used := Function.update st.used (entry positive st.log.length) true
      log := st.log ++ [st.contents (entry positive st.log.length)] } := by
  have strict := (free_room positive st window free).1
  have size : (st.log ++ [st.contents (entry positive st.log.length)]).length = st.log.length + 1 := by simp
  have earlier : ∀ (k : Nat) (s : Slot), st.log[k]? = some s → (st.log ++ [st.contents (entry positive st.log.length)])[k]? = some s := by
    intro k s found
    rw [List.getElem?_append_left (List.getElem?_eq_some_iff.mp found).1, found]
  have order := window.order
  refine ⟨window.idx, ?_, ?_, ?_, ?_, ?_, ?_⟩
  · simp only [size]
    omega
  · simp only [size]
    omega
  · intro slot
    simp only [size]
    by_cases here : slot = entry positive st.log.length
    · rw [here, Function.update_self]
      exact ⟨fun _ => ⟨st.log.length, order, Nat.lt_succ_self _, rfl⟩, fun _ => rfl⟩
    · rw [Function.update_of_ne here, window.used]
      constructor
      · rintro ⟨k, low, high, same⟩
        exact ⟨k, low, by omega, same⟩
      · rintro ⟨k, low, high, same⟩
        have older : k ≠ st.log.length := by
          rintro rfl
          exact here same
        exact ⟨k, low, by omega, same⟩
  · intro k low high
    simp only [size] at high
    by_cases newest : k = st.log.length
    · rw [newest, List.getElem?_concat_length]
    · exact earlier k _ (window.kept k low (by omega))
  · intro reads reading
    obtain ⟨ahead, all⟩ := window.busy reads reading
    exact ⟨by simp only [size]; omega, fun s member => earlier _ s (all s member)⟩
  · intro k reads found s member
    exact earlier k s (window.past k reads found s member)

theorem observe_window (st : State n Slot) (window : Window positive st) (up : st.used st.idx = true) :
    Window positive { st with reading := some [] } := by
  obtain ⟨k, low, high, _⟩ := (window.used st.idx).mp up
  refine ⟨window.idx, window.order, window.room, window.used, window.kept, ?_, window.past⟩
  intro reads reading
  cases reading
  exact ⟨Nat.lt_of_le_of_lt low high, by simp⟩

theorem read_window (st : State n Slot) (reads : List Slot) (window : Window positive st)
    (reading : st.reading = some reads) :
    Window positive { st with reading := some (reads ++ [st.contents st.idx]) } := by
  obtain ⟨waiting, all⟩ := window.busy reads reading
  refine ⟨window.idx, window.order, window.room, window.used, window.kept, ?_, window.past⟩
  intro more same
  obtain rfl := Option.some.inj same
  refine ⟨waiting, fun s member => ?_⟩
  rcases List.mem_append.mp member with old | new
  · exact all s old
  · rw [List.mem_singleton.mp new, window.idx]
    exact window.kept _ (Nat.le_refl _) waiting

theorem clear_window (st : State n Slot) (reads : List Slot) (window : Window positive st)
    (reading : st.reading = some reads) :
    Window positive { st with
      used := Function.update st.used st.idx false
      idx := next st.idx
      reading := none
      delivered := st.delivered ++ [reads] } := by
  obtain ⟨waiting, all⟩ := window.busy reads reading
  have room := window.room
  have size : (st.delivered ++ [reads]).length = st.delivered.length + 1 := by simp
  refine ⟨?_, ?_, ?_, ?_, ?_, by simp, ?_⟩
  · simp only [size, window.idx, next_entry]
  · simp only [size]
    omega
  · simp only [size]
    omega
  · intro slot
    simp only [size]
    by_cases here : slot = st.idx
    · rw [here, Function.update_self]
      refine ⟨fun up => absurd up (by simp), ?_⟩
      rintro ⟨k, low, high, same⟩
      rw [window.idx] at same
      exact absurd same (entry_distinct positive _ k (by omega) (by omega))
    · rw [Function.update_of_ne here, window.used]
      constructor
      · rintro ⟨k, low, high, same⟩
        have later : k ≠ st.delivered.length := by
          rintro rfl
          exact here (same.trans window.idx.symm)
        exact ⟨k, by omega, high, same⟩
      · rintro ⟨k, low, high, same⟩
        exact ⟨k, by omega, high, same⟩
  · intro k low high
    simp only [size] at low
    exact window.kept k (by omega) high
  · intro k other found s member
    by_cases last : k = st.delivered.length
    · rw [last, List.getElem?_concat_length] at found
      rw [← Option.some.inj found] at member
      rw [last]
      exact all s member
    · have inside : k < st.delivered.length := by
        have bound := (List.getElem?_eq_some_iff.mp found).1
        rw [size] at bound
        omega
      rw [List.getElem?_append_left inside] at found
      exact window.past k other found s member

theorem step_window (st after : State n Slot) (action : Action Slot) (window : Window positive st)
    (taken : step positive st action = some after) : Window positive after := by
  cases action with
  | write value =>
      cases free : st.used (entry positive st.log.length) with
      | true => simp [step, free] at taken
      | false =>
          simp only [step, free, Bool.false_eq_true, if_false, Option.some.injEq] at taken
          subst taken
          exact write_window positive st value window free
  | publish =>
      cases free : st.used (entry positive st.log.length) with
      | true => simp [step, free] at taken
      | false =>
          simp only [step, free, Bool.false_eq_true, if_false, Option.some.injEq] at taken
          subst taken
          exact publish_window positive st window free
  | observe =>
      by_cases ready : st.reading = none ∧ st.used st.idx = true
      · simp only [step, if_pos ready, Option.some.injEq] at taken
        subst taken
        exact observe_window positive st window ready.2
      · simp [step, ready] at taken
  | read =>
      cases reading : st.reading with
      | none => simp [step, reading] at taken
      | some reads =>
          simp only [step, reading, Option.some.injEq] at taken
          subst taken
          exact read_window positive st reads window reading
  | clear =>
      cases reading : st.reading with
      | none => simp [step, reading] at taken
      | some reads =>
          simp only [step, reading, Option.some.injEq] at taken
          subst taken
          exact clear_window positive st reads window reading

end

end FlagRing
