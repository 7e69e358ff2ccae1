import Mathlib.Data.List.Nodup
import SqlDiagnosis.Members

/-!
# Lists that stand for sets

Tables, columns and corrections are collected as sets: as lists of their
members. What is asked about such lists is what one has and another lacks.
-/

namespace SqlDiagnosis

variable {α : Type} [BEq α] [LawfulBEq α] {xs ys : List α}

/-- A set has a member of some sort if the list has one that it was made
from. -/
theorem any_members (p : α → Bool) (xs : List α) :
    (members xs).any p = xs.any p := by
  rw [Bool.eq_iff_iff, List.any_eq_true, List.any_eq_true]
  exact exists_congr fun x => by rw [mem_members]

/-- Nothing is left of a set without the members of another when it is contained
in it. -/
theorem filter_not_contains_eq_nil_iff :
    xs.filter (!ys.contains ·) = [] ↔ xs ⊆ ys := by
  rw [List.filter_eq_nil_iff]
  refine forall_congr' fun x => forall_congr' fun _ => ?_
  simp

/-! ### Lists with the same members -/

/-- Lists with the same members contain the same. -/
theorem contains_eq_of_mem_iff (h : ∀ x, x ∈ xs ↔ x ∈ ys) (x : α) :
    xs.contains x = ys.contains x := by
  rw [Bool.eq_iff_iff, List.contains_iff_mem, List.contains_iff_mem, h]

/-- Lists of numbers with the same members have the same greatest one. -/
theorem max?_eq_of_mem_iff {ms ns : List Nat} (h : ∀ n, n ∈ ms ↔ n ∈ ns) :
    ms.max? = ns.max? := by
  refine Option.ext fun n => ?_
  rw [List.max?_eq_some_iff, List.max?_eq_some_iff]
  simp only [h]

theorem min?_eq_of_mem_iff {ms ns : List Nat} (h : ∀ n, n ∈ ms ↔ n ∈ ns) :
    ms.min? = ns.min? := by
  refine Option.ext fun n => ?_
  rw [List.min?_eq_some_iff, List.min?_eq_some_iff]
  simp only [h]

end SqlDiagnosis
