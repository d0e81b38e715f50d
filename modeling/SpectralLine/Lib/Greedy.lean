import Mathlib.Data.List.Nodup
import Mathlib.Data.List.Perm.Subperm

set_option autoImplicit false

namespace Greedy

universe u

variable {W : Type u} (workers : List W) (free preferred : W → Bool)

-- The first free worker that is preferred, else the first free one.
def pick : Option W :=
  match workers.find? fun worker => free worker && preferred worker with
  | some worker => some worker
  | none => workers.find? free

theorem pick_free (worker : W) (picked : pick workers free preferred = some worker) : worker ∈ workers ∧ free worker = true := by
  rw [pick] at picked
  cases near : workers.find? fun worker => free worker && preferred worker with
  | some first =>
      rw [near] at picked
      cases picked
      have both := List.find?_some (p := fun worker => free worker && preferred worker) near
      exact ⟨List.mem_of_find?_eq_some near, (Bool.and_eq_true_iff.mp both).1⟩
  | none =>
      rw [near] at picked
      exact ⟨List.mem_of_find?_eq_some picked, List.find?_some picked⟩

-- Another worker is picked only where no free one is preferred.
theorem pick_preferred (worker : W) (picked : pick workers free preferred = some worker) (other : preferred worker = false) :
    ∀ near ∈ workers, preferred near = true → free near = false := by
  rw [pick] at picked
  cases found : workers.find? fun worker => free worker && preferred worker with
  | some first =>
      rw [found] at picked
      cases picked
      have both := List.find?_some (p := fun worker => free worker && preferred worker) found
      rw [(Bool.and_eq_true_iff.mp both).2] at other
      cases other
  | none =>
      intro near member wanted
      have none_ := List.find?_eq_none.mp found near member
      rw [wanted, Bool.and_true] at none_
      exact Bool.not_eq_true _ ▸ none_

theorem pick_some (worker : W) (member : worker ∈ workers) (available : free worker = true) :
    ∃ picked, pick workers free preferred = some picked := by
  rw [pick]
  cases workers.find? fun worker => free worker && preferred worker with
  | some first => exact ⟨first, rfl⟩
  | none => exact Option.isSome_iff_exists.mp (List.find?_isSome.mpr ⟨worker, member, available⟩)

-- Fewer workers taken than there are leave one.
theorem free_remains (distinct : workers.Nodup) (taken : List W) (fewer : taken.length < workers.length) :
    ∃ worker ∈ workers, worker ∉ taken := by
  by_contra none_
  simp only [not_exists, not_and, not_not] at none_
  have covered := (List.subperm_of_subset distinct none_).length_le
  omega

end Greedy
