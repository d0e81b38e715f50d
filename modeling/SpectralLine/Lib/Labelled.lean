import Mathlib.Data.List.Basic

set_option autoImplicit false

namespace Labelled

universe u v w

-- A transition system whose steps are visible under a label or internal.
structure System (State : Type u) (Label : Type v) where
  start : State → Prop
  step : State → Option Label → State → Prop

inductive Reaches {State : Type u} {Label : Type v} (sys : System State Label) : List Label → State → Prop
  | start (st : State) (first : sys.start st) : Reaches sys [] st
  | step (trace : List Label) (st after : State) (label : Option Label) (before : Reaches sys trace st)
      (taken : sys.step st label after) : Reaches sys (trace ++ label.toList) after

section

variable {Impl : Type u} {Spec : Type w} {Label : Type v} (impl : System Impl Label) (spec : System Spec Label)
  (relates : Impl → Spec → Prop)

-- A step of the implementation is a step of the specification with the same
-- label, or internal and invisible there.
structure Simulation : Prop where
  start : ∀ st, impl.start st → ∃ abs, spec.start abs ∧ relates st abs
  step : ∀ st abs label after, relates st abs → impl.step st label after →
    ∃ next, relates after next ∧ ((label = none ∧ next = abs) ∨ spec.step abs label next)

-- Every visible trace of the implementation is one of the specification.
theorem trace_inclusion (sim : Simulation impl spec relates) (trace : List Label) (st : Impl)
    (reached : Reaches impl trace st) : ∃ abs, Reaches spec trace abs ∧ relates st abs := by
  induction reached with
  | start st first =>
      obtain ⟨abs, begins, related⟩ := sim.start st first
      exact ⟨abs, Reaches.start abs begins, related⟩
  | step trace st after label before taken ih =>
      obtain ⟨abs, arrived, related⟩ := ih
      obtain ⟨next, follows, hidden | shown⟩ := sim.step st abs label after related taken
      · obtain ⟨none, same⟩ := hidden
        subst none same
        exact ⟨next, by simpa using arrived, follows⟩
      · exact ⟨next, Reaches.step trace abs next label arrived shown, follows⟩

end

end Labelled
