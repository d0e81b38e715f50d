import Mathlib.Data.List.Basic
import Mathlib.Data.List.Range

set_option autoImplicit false

universe u

-- Arrays in row-major order: the last axis varies fastest.
namespace RowMajor

variable {A : Type u}

def rows (count width : Nat) (flat : List A) : List (List A) :=
  (List.range count).map fun i => (flat.drop (i * width)).take width

def cube (depth count width : Nat) (flat : List A) : List (List (List A)) := (rows depth (count * width) flat).map (rows count width)

theorem rows_get (count width : Nat) (flat : List A) (i : Nat) (inside : i < count) :
    (rows count width flat)[i]? = some ((flat.drop (i * width)).take width) := by
  rw [rows, List.getElem?_map, List.getElem?_range inside]
  rfl

theorem row_get (width : Nat) (flat : List A) (i j : Nat) (inside : j < width) :
    ((flat.drop (i * width)).take width)[j]? = flat[i * width + j]? := by
  rw [List.getElem?_take_of_lt inside, List.getElem?_drop]

theorem cube_get (depth count width : Nat) (flat : List A) (i j : Nat) (insideI : i < depth) (insideJ : j < count) :
    ∃ plane row, (cube depth count width flat)[i]? = some plane ∧ plane[j]? = some row ∧
      ∀ k < width, row[k]? = flat[(i * count + j) * width + k]? := by
  have plane : (cube depth count width flat)[i]? = some (rows count width ((flat.drop (i * (count * width))).take (count * width))) := by
    rw [cube, List.getElem?_map, rows_get depth (count * width) flat i insideI]
    rfl
  refine ⟨_, _, plane, rows_get count width _ j insideJ, fun k insideK => ?_⟩
  have end_ : (j + 1) * width ≤ count * width := Nat.mul_le_mul_right width insideJ
  rw [Nat.succ_mul] at end_
  rw [row_get width _ j k insideK, row_get (count * width) flat i (j * width + k) (by omega), Nat.add_mul, Nat.mul_assoc,
    Nat.add_assoc]

end RowMajor
