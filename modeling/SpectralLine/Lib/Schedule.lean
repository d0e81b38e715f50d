import SpectralLine.Lib.Streams

set_option autoImplicit false

namespace Streams

universe u

section

variable {Stream Event Op Host Loc : Type} {Val : Loc → Type u} [DecidableEq Loc] [DecidableEq Event] [DecidableEq Stream]
variable (device : Device Op Loc Val) (prog : Program Stream Event Op Host)
variable (guard : State Val → Nat → Prop) [DecidableRel guard]

-- A schedule: the host issues, or the instruction at a place runs.
inductive Choice where
  | issue
  | run (k : Nat)
deriving DecidableEq

def canIssue (st : State Val) : Instr Stream Event Op Host → Bool
  | .synchronize e =>
      match lastRecord prog e st.issued with
      | none => true
      | some r => decide (r ∈ st.executed)
  | _ => true

def isReady (st : State Val) (k : Nat) : Instr Stream Event Op Host → Bool
  | .wait _ e =>
      match lastRecord prog e k with
      | none => true
      | some r => decide (r ∈ st.executed)
  | _ => true

def isFront (st : State Val) (k : Nat) (s : Stream) : Bool :=
  (List.range k).all fun j =>
    match prog[j]? with
    | none => true
    | some earlier => earlier.stream != some s || decide (j ∈ st.executed)

def choose (st : State Val) : Choice → Option (State Val)
  | .issue =>
      match prog[st.issued]? with
      | none => none
      | some i => if canIssue prog st i then some { st with issued := st.issued + 1 } else none
  | .run k =>
      match prog[k]? with
      | none => none
      | some i =>
          match i.stream with
          | none => none
          | some s =>
              if decide (k < st.issued) && decide (k ∉ st.executed) && isFront prog st k s && isReady prog st k i &&
                  decide (guard st k) then
                some { st with executed := st.executed ++ [k], memory := execInstr device i st.memory }
              else none

def chooseAll (st : State Val) (choices : List Choice) : Option (State Val) := choices.foldlM (choose device prog guard) st

theorem choose_step (st next : State Val) (choice : Choice) (taken : choose device prog guard st choice = some next) :
    Step device prog guard st next := by
  cases choice with
  | issue =>
      cases found : prog[st.issued]? with
      | none => simp [choose, found] at taken
      | some i =>
          cases free : canIssue prog st i with
          | false => simp [choose, found, free] at taken
          | true =>
              simp only [choose, found, free, if_true, Option.some.injEq] at taken
              subst taken
              refine Step.issue st i found ?_
              rintro e r rfl last
              simpa [canIssue, last] using free
  | run k =>
      cases found : prog[k]? with
      | none => simp [choose, found] at taken
      | some i =>
          cases onStream : i.stream with
          | none => simp [choose, found, onStream] at taken
          | some s =>
              simp only [choose, found, onStream, Option.ite_none_right_eq_some, Option.some.injEq, Bool.and_eq_true,
                decide_eq_true_eq] at taken
              obtain ⟨⟨⟨⟨⟨issued, fresh⟩, front⟩, ready⟩, allowed⟩, rfl⟩ := taken
              refine Step.run st k i s found onStream issued fresh ?_ ?_ allowed
              · intro j earlier before at_ same
                have here := List.all_eq_true.mp front j (List.mem_range.mpr before)
                simpa [at_, same] using here
              · rintro t e r rfl last
                simpa [isReady, last] using ready

theorem choose_ran (st next : State Val) (k : Nat) (taken : choose device prog guard st (.run k) = some next) :
    next.executed = st.executed ++ [k] := by
  cases found : prog[k]? with
  | none => simp [choose, found] at taken
  | some i =>
      cases onStream : i.stream with
      | none => simp [choose, found, onStream] at taken
      | some s =>
          simp only [choose, found, onStream, Option.ite_none_right_eq_some, Option.some.injEq] at taken
          rw [← taken.2]

theorem choose_all_reachable (first : (l : Loc) → Val l) (st last : State Val) (choices : List Choice)
    (before : Reachable device prog guard first st) (done : chooseAll device prog guard st choices = some last) :
    Reachable device prog guard first last := by
  induction choices generalizing st with
  | nil =>
      cases done
      exact before
  | cons choice rest ih =>
      rw [chooseAll, List.foldlM_cons] at done
      cases taken : choose device prog guard st choice with
      | none => simp [taken] at done
      | some next =>
          simp only [taken, Option.bind_eq_bind, Option.bind_some] at done
          exact ih next (Reachable.step st next before (choose_step device prog guard st next choice taken)) done

end

end Streams
