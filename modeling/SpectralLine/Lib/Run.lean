import Mathlib.Data.List.Basic
import Mathlib.Data.Fintype.Card

set_option autoImplicit false

namespace Run

universe u v w

variable {State : Type u} {Event : Type v} {Failure : Type w}

theorem bind_ok {A B : Type u} (first : Except Failure A) (next : A → Except Failure B) (result : B)
    (done : (first >>= next) = .ok result) : ∃ middle, first = .ok middle ∧ next middle = .ok result := by
  cases first with
  | error failure => exact absurd done (by simp [bind, Except.bind])
  | ok middle => exact ⟨middle, rfl, done⟩

-- What one step preserves, a whole run has; the invariant may mention the
-- events taken so far.
theorem invariant (step : State → Event → Except Failure State) (start : State)
    (inv : List Event → State → Prop) (initial : inv [] start)
    (preserved : ∀ past state event next, inv past state → step state event = .ok next → inv (past ++ [event]) next)
    (events : List Event) (last : State) (run : events.foldlM step start = .ok last) : inv events last := by
  induction events using List.reverseRecOn generalizing last with
  | nil =>
      cases run
      exact initial
  | append_singleton past event ih =>
      rw [List.foldlM_append] at run
      obtain ⟨middle, before, after⟩ := bind_ok _ _ _ run
      obtain ⟨next, taken, same⟩ := bind_ok _ _ _ after
      cases same
      exact preserved past middle event last (ih middle before) taken

-- A duplicate-free list over Fin n is as long as n exactly when it covers it.
theorem nodup_covers {n : Nat} (slots : List (Fin n)) (distinct : slots.Nodup) :
    slots.length = n ↔ ∀ j, j ∈ slots := by
  have size : slots.toFinset.card = slots.length := List.toFinset_card_of_nodup distinct
  constructor
  · intro full j
    have all : slots.toFinset = Finset.univ :=
      Finset.eq_univ_of_card _ (by rw [size, full, Fintype.card_fin])
    exact List.mem_toFinset.mp (all ▸ Finset.mem_univ j)
  · intro covers
    have all : slots.toFinset = Finset.univ :=
      Finset.eq_univ_iff_forall.mpr fun j => List.mem_toFinset.mpr (covers j)
    rw [← size, all, Finset.card_univ, Fintype.card_fin]

end Run
