import Mathlib.Tactic.TypeStar

set_option autoImplicit false

namespace Checked

universe u v

-- A check of a validating function: it stops with the message.
def refuse (condition : Prop) [Decidable condition] (message : String) : Except String Unit :=
  if condition then .error message else .ok ()

variable {ε : Type u} {α β : Type v}

-- What holds of the result whenever the computation succeeds.
def Returns (result : Except ε α) (post : α → Prop) : Prop := ∀ value, result = .ok value → post value

theorem returns_ok (value : α) (post : α → Prop) (holds : post value) : Returns (.ok value : Except ε α) post := by
  intro other same
  cases same
  exact holds

theorem returns_pure (value : α) (post : α → Prop) (holds : post value) : Returns (pure value : Except ε α) post :=
  returns_ok value post holds

theorem returns_any (result : Except ε α) : Returns result fun _ => True := fun _ _ => trivial

theorem returns_weaken (result : Except ε α) (strong weak : α → Prop) (holds : Returns result strong)
    (implies : ∀ value, strong value → weak value) : Returns result weak := fun value same => implies value (holds value same)

theorem returns_bind (first : Except ε α) (next : α → Except ε β) (middle : α → Prop) (post : β → Prop)
    (before : Returns first middle) (after : ∀ value, middle value → Returns (next value) post) :
    Returns (first >>= next) post := by
  intro result same
  cases taken : first with
  | error failure =>
      rw [taken] at same
      cases same
  | ok value =>
      rw [taken] at same
      exact after value (before value taken) result same

-- A step whose value alone matters.
theorem returns_then (first : Except ε α) (next : α → Except ε β) (post : β → Prop)
    (after : ∀ value, Returns (next value) post) : Returns (first >>= next) post :=
  returns_bind first next (fun _ => True) post (returns_any first) fun value _ => after value

theorem returns_check (condition : Prop) [Decidable condition] (message : String) {γ : Type} (next : Unit → Except String γ)
    (post : γ → Prop) (after : ¬ condition → Returns (next ()) post) : Returns (refuse condition message >>= next) post := by
  by_cases stops : condition
  · intro result same
    rw [refuse, if_pos stops] at same
    cases same
  · rw [refuse, if_neg stops]
    exact after stops

theorem returns_ite (condition : Prop) [Decidable condition] (yes no : Except ε α) (post : α → Prop)
    (taken : condition → Returns yes post) (skipped : ¬ condition → Returns no post) :
    Returns (if condition then yes else no) post := by
  by_cases holds : condition
  · rw [if_pos holds]
    exact taken holds
  · rw [if_neg holds]
    exact skipped holds

theorem bind_value (first : Except ε α) (next : α → Except ε β) (value : α) (found : first = .ok value) :
    (first >>= next) = next value := by
  rw [found]
  rfl

theorem bind_clear (condition : Prop) [Decidable condition] (message : String) {γ : Type} (next : Unit → Except String γ)
    (clear : ¬ condition) : (refuse condition message >>= next) = next () := by
  rw [refuse, if_neg clear]
  rfl

theorem bind_stop (condition : Prop) [Decidable condition] (message : String) {γ : Type} (next : Unit → Except String γ)
    (stops : condition) : (refuse condition message >>= next) = .error message := by
  rw [refuse, if_pos stops]
  rfl

-- The computation ends in a result.
def Succeeds (result : Except ε α) : Prop := ∃ value, result = .ok value

theorem succeeds_ok (value : α) : Succeeds (.ok value : Except ε α) := ⟨value, rfl⟩

theorem succeeds_error (failure : ε) : ¬ Succeeds (.error failure : Except ε α) := fun ⟨_, same⟩ => nomatch same

theorem succeeds_bind (first : Except ε α) (next : α → Except ε β) :
    Succeeds (first >>= next) ↔ ∃ value, first = .ok value ∧ Succeeds (next value) := by
  cases first with
  | error failure =>
      constructor
      · exact fun succeeds => absurd succeeds (succeeds_error failure)
      · rintro ⟨_, same, _⟩
        cases same
  | ok value =>
      constructor
      · exact fun succeeds => ⟨value, rfl, succeeds⟩
      · rintro ⟨_, same, succeeds⟩
        cases same
        exact succeeds

theorem succeeds_check (condition : Prop) [Decidable condition] (message : String) {γ : Type} (next : Unit → Except String γ) :
    Succeeds (refuse condition message >>= next) ↔ ¬ condition ∧ Succeeds (next ()) := by
  by_cases stops : condition
  · rw [refuse, if_pos stops]
    exact ⟨fun succeeds => absurd succeeds (succeeds_error message), fun both => absurd stops both.1⟩
  · rw [refuse, if_neg stops]
    exact ⟨fun succeeds => ⟨stops, succeeds⟩, fun both => both.2⟩

theorem succeeds_refuse (condition : Prop) [Decidable condition] (message : String) : Succeeds (refuse condition message) ↔ ¬ condition := by
  by_cases stops : condition
  · rw [refuse, if_pos stops]
    exact ⟨fun succeeds => absurd succeeds (succeeds_error message), fun clear => absurd stops clear⟩
  · rw [refuse, if_neg stops]
    exact ⟨fun _ => stops, fun _ => succeeds_ok ()⟩

end Checked
