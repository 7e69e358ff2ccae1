/-!
# Members of a set

Several checks collect tables, columns, names or corrections in a set and then
go through it. In which order this is done is laid down nowhere, and it shows in
the order of the findings.

**Assumption.** A set that was collected in the same way is always gone through
in the same order, and what is left of it when members are taken away keeps that
order. Which order it is does not matter: `members` is irreducible, and all that
is ever used of it is that it has the members of the set (`mem_members`), each
once (`nodup_members`). So what is proved of the checks holds for any order. It
is the order of first occurrence only where a query is run.
-/

namespace SqlDiagnosis

variable {α : Type} [BEq α]

/-- The members of the set of all `xs`, in the order in which it is gone
through. -/
@[irreducible]
def members (xs : List α) : List α := xs.eraseDups

variable [LawfulBEq α]

@[simp]
theorem mem_members {x : α} {xs : List α} : x ∈ members xs ↔ x ∈ xs := by
  rw [members, List.mem_eraseDups]

@[simp]
theorem members_nil : members ([] : List α) = [] := by
  rw [List.eq_nil_iff_forall_not_mem]
  intro x hx
  rw [mem_members] at hx
  exact List.not_mem_nil hx

theorem nodup_eraseDups (xs : List α) : xs.eraseDups.Nodup := by
  match xs with
  | [] => exact List.nodup_nil
  | x :: xs =>
    rw [List.eraseDups_cons, List.nodup_cons]
    refine ⟨?_, nodup_eraseDups _⟩
    intro hx
    have hkept := List.mem_filter.mp (List.mem_eraseDups.mp hx)
    simp at hkept
termination_by xs.length
decreasing_by exact Nat.lt_succ_of_le (List.length_filter_le _ _)

theorem nodup_members (xs : List α) : (members xs).Nodup := by
  rw [members]
  exact nodup_eraseDups xs

end SqlDiagnosis
