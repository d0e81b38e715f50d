import Mathlib.Data.List.Basic
import Mathlib.Algebra.Order.Group.Nat

set_option autoImplicit false

namespace Framing

universe u

variable {α : Type u} (frame : List α → Prop)

-- Whole frames, one after the other.
def Whole (content : List α) : Prop := ∃ frames : List (List α), content = frames.flatten ∧ ∀ f ∈ frames, frame f

-- Whole frames, and at most one incomplete frame at the very end.
def Framed (content : List α) : Prop :=
  ∃ whole tail, content = whole ++ tail ∧ Whole frame whole ∧ (tail = [] ∨ ∃ f, frame f ∧ tail <+: f ∧ tail.length < f.length)

theorem whole_nil : Whole frame ([] : List α) := ⟨[], rfl, fun _ member => absurd member List.not_mem_nil⟩

theorem whole_append (first second : List α) (left : Whole frame first) (right : Whole frame second) :
    Whole frame (first ++ second) := by
  obtain ⟨frames, rfl, all⟩ := left
  obtain ⟨more, rfl, others⟩ := right
  refine ⟨frames ++ more, List.flatten_append.symm, ?_⟩
  intro f member
  rcases List.mem_append.mp member with before | after
  · exact all f before
  · exact others f after

theorem framed_whole (content : List α) (whole : Whole frame content) : Framed frame content :=
  ⟨content, [], (List.append_nil content).symm, whole, Or.inl rfl⟩

theorem whole_mono (wider : List α → Prop) (grows : ∀ f, frame f → wider f) (content : List α) (whole : Whole frame content) :
    Whole wider content := by
  obtain ⟨frames, rfl, all⟩ := whole
  exact ⟨frames, rfl, fun f member => grows f (all f member)⟩

theorem framed_mono (wider : List α → Prop) (grows : ∀ f, frame f → wider f) (content : List α) (framed : Framed frame content) :
    Framed wider content := by
  obtain ⟨whole, tail, split, complete, last⟩ := framed
  refine ⟨whole, tail, split, whole_mono frame wider grows whole complete, ?_⟩
  rcases last with none | ⟨f, isFrame, begins, short⟩
  · exact Or.inl none
  · exact Or.inr ⟨f, grows f isFrame, begins, short⟩

section

variable (size : Nat) (sized : ∀ f, frame f → f.length = size)

include sized

theorem whole_length (content : List α) (whole : Whole frame content) : size ∣ content.length := by
  obtain ⟨frames, rfl, all⟩ := whole
  induction frames with
  | nil => exact Nat.dvd_zero size
  | cons f rest ih =>
      rw [List.flatten_cons, List.length_append, sized f (all f List.mem_cons_self)]
      exact Nat.dvd_add (Nat.dvd_refl size) (ih fun g member => all g (List.mem_cons_of_mem f member))

-- A content of a whole number of frames has no incomplete one.
theorem framed_boundary (content : List α) (framed : Framed frame content) (boundary : size ∣ content.length) :
    Whole frame content := by
  obtain ⟨whole, tail, rfl, complete, last⟩ := framed
  rcases last with rfl | ⟨f, isFrame, begins, short⟩
  · rwa [List.append_nil]
  · rw [List.length_append] at boundary
    have rest : size ∣ tail.length := (Nat.dvd_add_right (whole_length frame size sized whole complete)).mp boundary
    rw [sized f isFrame] at short
    have none : tail = [] := List.eq_nil_of_length_eq_zero (Nat.eq_zero_of_dvd_of_lt rest short)
    rwa [none, List.append_nil]

end

-- Frames written behind whole frames, up to any byte.
theorem framed_begins (frames : List (List α)) (all : ∀ f ∈ frames, frame f) (whole taken : List α) (complete : Whole frame whole)
    (begins : taken <+: frames.flatten) : Framed frame (whole ++ taken) := by
  induction frames generalizing whole taken with
  | nil =>
      rw [List.flatten_nil, List.prefix_nil] at begins
      rw [begins, List.append_nil]
      exact framed_whole frame whole complete
  | cons f rest ih =>
      have isFrame := all f List.mem_cons_self
      rw [List.flatten_cons] at begins
      by_cases short : taken.length < f.length
      · have inside : taken <+: f := List.prefix_of_prefix_length_le begins (List.prefix_append f _) (Nat.le_of_lt short)
        exact ⟨whole, taken, rfl, complete, Or.inr ⟨f, isFrame, inside, short⟩⟩
      · obtain ⟨later, rfl⟩ : f <+: taken :=
          List.prefix_of_prefix_length_le (List.prefix_append f _) begins (Nat.le_of_not_lt short)
        have one : Whole frame f := ⟨[f], (List.append_nil f).symm, fun g member => List.mem_singleton.mp member ▸ isFrame⟩
        rw [← List.append_assoc]
        exact ih (fun g member => all g (List.mem_cons_of_mem f member)) (whole ++ f) later
          (whole_append frame whole f complete one) ((List.prefix_append_right_inj f).mp begins)

end Framing
