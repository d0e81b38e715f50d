import Mathlib.Data.List.Range
import Mathlib.Data.List.Sort
import Mathlib.Logic.Function.Basic

set_option autoImplicit false

namespace Keyed

universe u v w

variable {A : Type u} {B : Type v} {C : Type w}

-- An element of the one list and what matches it in the other.
theorem matched_split {R : A → B → Prop} (past : List A) (x : A) (rest : List A) (ys : List B)
    (matched : List.Forall₂ R (past ++ x :: rest) ys) :
    ∃ before y after, ys = before ++ y :: after ∧ R x y ∧ List.Forall₂ R rest after := by
  induction past generalizing ys with
  | nil =>
      cases matched with
      | cons here later => exact ⟨[], _, _, rfl, here, later⟩
  | cons z past ih =>
      cases matched with
      | cons first later =>
          obtain ⟨before, y, after, same, here, others⟩ := ih _ later
          exact ⟨_ :: before, y, after, by rw [same]; rfl, here, others⟩

-- Two lists with the same keys agree in whatever the keys determine.
theorem map_eq_of_keys {K : Type} (xs : List A) (ys : List B) (keyA : A → K) (keyB : B → K) (viewA : A → C)
    (viewB : B → C) (keys : xs.map keyA = ys.map keyB)
    (agree : ∀ x ∈ xs, ∀ y ∈ ys, keyA x = keyB y → viewA x = viewB y) : xs.map viewA = ys.map viewB := by
  induction xs generalizing ys with
  | nil =>
      cases ys with
      | nil => rfl
      | cons y rest => simp at keys
  | cons x xs ih =>
      cases ys with
      | nil => simp at keys
      | cons y ys =>
          simp only [List.map_cons, List.cons.injEq] at keys ⊢
          refine ⟨agree x (List.mem_cons_self ..) y (List.mem_cons_self ..) keys.1, ih ys keys.2 ?_⟩
          intro a inA b inB
          exact agree a (List.mem_cons_of_mem x inA) b (List.mem_cons_of_mem y inB)

theorem blocks_range (first len size : Nat) :
    (List.range' first len).flatMap (fun block => List.range' (block * size) size) =
      List.range' (first * size) (len * size) := by
  induction len generalizing first with
  | zero => simp
  | succ len ih =>
      rw [List.range'_succ, List.flatMap_cons, ih (first + 1), Nat.succ_mul, Nat.succ_mul, Nat.add_comm (len * size)]
      have joined := @List.range'_append_1 (first * size) size (len * size)
      exact joined

-- An ascending list is determined by its members.
theorem ascending_range (ids : List Nat) (first len : Nat) (ascend : ids.Pairwise (· < ·))
    (members : ∀ id, id ∈ ids ↔ first ≤ id ∧ id < first + len) : ids = List.range' first len := by
  have order : (List.range' first len).Pairwise (· < ·) := List.pairwise_lt_range'
  refine List.Perm.eq_of_pairwise' ascend order ?_
  refine (List.perm_ext_iff_of_nodup ascend.nodup order.nodup).mpr ?_
  intro id
  rw [members, List.mem_range'_1]

theorem first_failing (good : A → Prop) [DecidablePred good] (xs : List A) (x : A) (member : x ∈ xs) (fails : ¬ good x) :
    ∃ before bad rest, xs = before ++ bad :: rest ∧ (∀ a ∈ before, good a) ∧ ¬ good bad := by
  induction xs with
  | nil => simp at member
  | cons head rest ih =>
      by_cases holds : good head
      · have later : x ∈ rest := by
          rcases List.mem_cons.mp member with rfl | inRest
          · exact absurd holds fails
          · exact inRest
        obtain ⟨before, bad, tail, split, fine, broken⟩ := ih later
        refine ⟨head :: before, bad, tail, by rw [split, List.cons_append], ?_, broken⟩
        intro a inBefore
        rcases List.mem_cons.mp inBefore with rfl | inTail
        · exact holds
        · exact fine a inTail
      · exact ⟨[], head, rest, rfl, by simp, holds⟩

section

variable [DecidableEq B] (key : A → B) (value : A → C)

-- Writing a table entry by entry.
theorem updates_elsewhere (xs : List A) (table : B → C) (k : B) (absent : ∀ x ∈ xs, key x ≠ k) :
    xs.foldl (fun table x => Function.update table (key x) (value x)) table k = table k := by
  induction xs generalizing table with
  | nil => rfl
  | cons x rest ih =>
      rw [List.foldl_cons, ih _ fun y member => absent y (List.mem_cons_of_mem x member)]
      exact Function.update_of_ne (absent x (List.mem_cons_self ..)).symm _ _

theorem updates_here_among (xs : List A) (table : B → C) (x : A) (member : x ∈ xs)
    (alone : ∀ y ∈ xs, key y = key x → y = x) :
    xs.foldl (fun table x => Function.update table (key x) (value x)) table (key x) = value x := by
  classical
  induction xs generalizing table with
  | nil => simp at member
  | cons y rest ih =>
      rw [List.foldl_cons]
      by_cases later : x ∈ rest
      · exact ih _ later fun z inRest => alone z (List.mem_cons_of_mem y inRest)
      · have same : x = y := by simpa [later] using member
        subst same
        have absent : ∀ z ∈ rest, key z ≠ key x :=
          fun z inRest equal => later (alone z (List.mem_cons_of_mem x inRest) equal ▸ inRest)
        rw [updates_elsewhere key value rest _ (key x) absent, Function.update_self]

theorem updates_here (xs : List A) (table : B → C) (x : A) (member : x ∈ xs) (injective : Function.Injective key) :
    xs.foldl (fun table x => Function.update table (key x) (value x)) table (key x) = value x :=
  updates_here_among key value xs table x member fun _ _ equal => injective equal

-- Changing each listed entry once.
theorem modify_listed (change : B → C → C) (ks : List B) (once : ks.Nodup) (table : B → C) (k : B) :
    ks.foldl (fun table k => Function.update table k (change k (table k))) table k =
      if k ∈ ks then change k (table k) else table k := by
  induction ks generalizing table with
  | nil => rfl
  | cons first rest ih =>
      obtain ⟨fresh, later⟩ := List.nodup_cons.mp once
      rw [List.foldl_cons, ih later]
      by_cases here : k = first
      · subst here
        rw [if_neg fresh, if_pos (List.mem_cons_self ..), Function.update_self]
      · simp only [List.mem_cons, here, false_or, Function.update_of_ne here]

end

end Keyed
