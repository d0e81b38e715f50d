import Mathlib.Data.List.AList
import Mathlib.Data.List.Sort

set_option autoImplicit false

-- Dictionaries with keys and values of fixed types, and the loops over them.
namespace Dictionary

universe u v w

abbrev Dict (K : Type u) (V : Type v) := AList (fun _ : K => V)

variable {K : Type u} {V : Type v} {A : Type w} [DecidableEq K]

def popAll (keys : List K) (d : Dict K V) : Dict K V := keys.foldl (fun d key => d.erase key) d

theorem lookup_pop_all (keys : List K) (d : Dict K V) (key : K) :
    (popAll keys d).lookup key = if key ∈ keys then none else d.lookup key := by
  induction keys generalizing d with
  | nil => simp [popAll]
  | cons first keys ih =>
      have rest := ih (d.erase first)
      rw [popAll] at rest
      rw [popAll, List.foldl_cons, rest]
      by_cases same : key = first
      · subst same
        simp [AList.lookup_erase]
      · rw [AList.lookup_erase_ne same]
        simp only [List.mem_cons, same, false_or]

theorem mem_pop_all (keys : List K) (d : Dict K V) (key : K) : key ∈ popAll keys d ↔ key ∈ d ∧ key ∉ keys := by
  rw [← AList.lookup_isSome, ← AList.lookup_isSome, lookup_pop_all]
  by_cases popped : key ∈ keys
  · simp [popped]
  · simp [popped]

theorem keys_pop_all (keys : List K) (d : Dict K V) : (popAll keys d).keys = d.keys.diff keys := by
  induction keys generalizing d with
  | nil => simp [popAll]
  | cons first keys ih =>
      have rest := ih (d.erase first)
      rw [popAll] at rest
      rw [popAll, List.foldl_cons, rest, AList.keys_erase, List.diff_cons]

-- d[key(x)] = value(x) for each x of a list.
def setAll (key : A → K) (value : A → V) (items : List A) (d : Dict K V) : Dict K V :=
  items.foldl (fun d x => d.insert (key x) (value x)) d

theorem lookup_set_all_other (key : A → K) (value : A → V) (items : List A) (d : Dict K V) (k : K)
    (other : ∀ x ∈ items, key x ≠ k) : (setAll key value items d).lookup k = d.lookup k := by
  induction items generalizing d with
  | nil => rfl
  | cons x items ih =>
      have rest := ih (d.insert (key x) (value x)) fun y member => other y (List.mem_cons_of_mem x member)
      rw [setAll] at rest
      rw [setAll, List.foldl_cons, rest]
      exact AList.lookup_insert_ne (Ne.symm (other x List.mem_cons_self))

theorem lookup_set_all (key : A → K) (value : A → V) (items : List A) (d : Dict K V)
    (distinct : (items.map key).Nodup) (x : A) (member : x ∈ items) :
    (setAll key value items d).lookup (key x) = some (value x) := by
  induction items generalizing d with
  | nil => cases member
  | cons y items ih =>
      rw [List.map_cons, List.nodup_cons] at distinct
      rw [setAll, List.foldl_cons]
      rcases List.mem_cons.mp member with here | later
      · subst here
        have rest := lookup_set_all_other key value items (d.insert (key x) (value x)) (key x) fun z inside same =>
          distinct.1 (same ▸ List.mem_map_of_mem inside)
        rw [setAll] at rest
        rw [rest, AList.lookup_insert]
      · exact ih (d.insert (key y) (value y)) distinct.2 later

theorem mem_set_all (key : A → K) (value : A → V) (items : List A) (d : Dict K V) (k : K) :
    k ∈ setAll key value items d ↔ (∃ x ∈ items, key x = k) ∨ k ∈ d := by
  induction items generalizing d with
  | nil => simp [setAll]
  | cons x items ih =>
      have rest := ih (d.insert (key x) (value x))
      rw [setAll] at rest
      rw [setAll, List.foldl_cons, rest, AList.mem_insert, List.exists_mem_cons_iff, or_assoc, eq_comm (a := k)]
      exact or_left_comm

section

variable [LinearOrder K]

-- [d[key] for key in sorted(d)]
def valuesByKey (d : Dict K V) : List V := (d.keys.insertionSort (· ≤ ·)).filterMap fun key => d.lookup key

theorem mem_values_by_key (d : Dict K V) (value : V) : value ∈ valuesByKey d ↔ ∃ key, d.lookup key = some value := by
  rw [valuesByKey, List.mem_filterMap]
  constructor
  · rintro ⟨key, _, found⟩
    exact ⟨key, found⟩
  · rintro ⟨key, found⟩
    have inside : key ∈ d := AList.lookup_isSome.mp (by rw [found]; rfl)
    exact ⟨key, (List.mem_insertionSort _).mpr (AList.mem_keys.mp inside), found⟩

-- Each key of the sorted keys finds the value at its place.
theorem values_by_key_found (d : Dict K V) :
    List.Forall₂ (fun key value => d.lookup key = some value) (d.keys.insertionSort (· ≤ ·)) (valuesByKey d) := by
  have each : ∀ keys : List K, (∀ key ∈ keys, key ∈ d) →
      List.Forall₂ (fun key value => d.lookup key = some value) keys (keys.filterMap fun key => d.lookup key) := by
    intro keys inside
    induction keys with
    | nil => exact .nil
    | cons key keys ih =>
        obtain ⟨value, found⟩ := Option.isSome_iff_exists.mp (AList.lookup_isSome.mpr (inside key List.mem_cons_self))
        have rest := ih fun other member => inside other (List.mem_cons_of_mem key member)
        rw [List.filterMap_cons, found]
        exact .cons found rest
  exact each _ fun key member => AList.mem_keys.mpr ((List.mem_insertionSort _).mp member)

-- Values that name their own key come in the order of their keys, each key once.
theorem values_by_key_names (d : Dict K V) (name : V → K) (named : ∀ key value, d.lookup key = some value → name value = key) :
    (valuesByKey d).map name = d.keys.insertionSort (· ≤ ·) := by
  have same : ∀ keys (values : List V), List.Forall₂ (fun key value => d.lookup key = some value) keys values →
      values.map name = keys := by
    intro keys values found
    induction found with
    | nil => rfl
    | cons here _ ih => rw [List.map_cons, named _ _ here, ih]
  exact same _ _ (values_by_key_found d)

theorem values_by_key_sorted (d : Dict K V) (name : V → K) (named : ∀ key value, d.lookup key = some value → name value = key) :
    ((valuesByKey d).map name).Pairwise (· < ·) := by
  rw [values_by_key_names d name named]
  have distinct : (d.keys.insertionSort (· ≤ ·)).Nodup := (List.perm_insertionSort _ _).nodup_iff.mpr d.keys_nodup
  exact ((List.pairwise_insertionSort (· ≤ ·) d.keys).and distinct).imp fun both => lt_of_le_of_ne both.1 both.2

theorem length_values_by_key (d : Dict K V) : (valuesByKey d).length = d.keys.length := by
  rw [← (values_by_key_found d).length_eq, List.length_insertionSort]

theorem pop_all_shorter (keys : List K) (d : Dict K V) (key : K) (popped : key ∈ keys) (held : key ∈ d) :
    (valuesByKey (popAll keys d)).length < (valuesByKey d).length := by
  rw [length_values_by_key, length_values_by_key, keys_pop_all, List.Nodup.sdiff_eq_filter d.keys_nodup]
  exact List.length_filter_lt_length_iff_exists.mpr ⟨key, AList.mem_keys.mp held, by simpa using popped⟩

end

end Dictionary
