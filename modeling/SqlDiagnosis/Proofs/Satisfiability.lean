import Mathlib.Logic.Function.Basic
import SqlDiagnosis.Formula

/-!
# Satisfiability is decided correctly

`satisfiable` tries the values of one variable after the other and simplifies on
the way. A simplified formula has the same truth, and putting a value in place
of a variable is evaluating under the assignment updated at it, so the search
answers for all assignments (`satisfiable_iff`) although it looks only at those
of the variables that occur.
-/

namespace SqlDiagnosis.Formula

/-! ### Truth under all assignments -/

/-- No assignment makes the formula true. -/
def Unsatisfiable (f : Formula) : Prop := ∀ ρ, f.eval ρ = false

/-- Every assignment makes the formula true. -/
def Valid (f : Formula) : Prop := ∀ ρ, f.eval ρ = true

/-- Every assignment makes both formulas true or both false. -/
def Equivalent (f g : Formula) : Prop := ∀ ρ, f.eval ρ = g.eval ρ

/-- The truth of a formula depends only on its variables. -/
theorem eval_congr {f : Formula} {ρ σ : String → Bool}
    (h : ∀ x ∈ f.vars, ρ x = σ x) : f.eval ρ = f.eval σ := by
  induction f with
  | const b => rfl
  | var x => exact h x (by simp [vars])
  | not f ih => rw [eval, eval, ih h]
  | and f g ihf ihg =>
    rw [eval, eval, ihf fun x hx => h x (List.mem_append_left _ hx),
      ihg fun x hx => h x (List.mem_append_right _ hx)]
  | or f g ihf ihg =>
    rw [eval, eval, ihf fun x hx => h x (List.mem_append_left _ hx),
      ihg fun x hx => h x (List.mem_append_right _ hx)]

/-! ### Simplification -/

/-- Simplification keeps the truth of a formula. -/
theorem eval_simplifyNot (f : Formula) (ρ : String → Bool) :
    f.simplifyNot.eval ρ = !f.eval ρ := by
  cases f <;> rfl

theorem eval_simplifyAnd (f g : Formula) (ρ : String → Bool) :
    (f.simplifyAnd g).eval ρ = (f.eval ρ && g.eval ρ) := by
  fun_cases simplifyAnd f g <;> simp_all [eval]

theorem eval_simplifyOr (f g : Formula) (ρ : String → Bool) :
    (f.simplifyOr g).eval ρ = (f.eval ρ || g.eval ρ) := by
  fun_cases simplifyOr f g <;> simp_all [eval]

theorem vars_simplifyNot (f : Formula) : f.simplifyNot.vars = f.vars := by
  cases f <;> rfl

/-- Simplification brings up no variables. -/
theorem vars_simplifyAnd_subset (f g : Formula) :
    (f.simplifyAnd g).vars ⊆ f.vars ++ g.vars := by
  fun_cases simplifyAnd f g <;> simp [vars]

theorem vars_simplifyOr_subset (f g : Formula) :
    (f.simplifyOr g).vars ⊆ f.vars ++ g.vars := by
  fun_cases simplifyOr f g <;> simp [vars]

/-! ### A value in place of a variable -/

/-- A value in place of a variable is the value of an updated assignment. -/
theorem eval_assign (x : String) (b : Bool) (f : Formula) (ρ : String → Bool) :
    (f.assign x b).eval ρ = f.eval (Function.update ρ x b) := by
  induction f with
  | const c => rfl
  | var y =>
    by_cases h : y = x
    · subst h
      simp [assign, eval]
    · simp [assign, eval, h]
  | not f ih => rw [assign, eval_simplifyNot, ih, eval]
  | and f g ihf ihg => rw [assign, eval_simplifyAnd, ihf, ihg, eval]
  | or f g ihf ihg => rw [assign, eval_simplifyOr, ihf, ihg, eval]

/-- What is given a value is no longer a variable, and no other variable comes
up. -/
theorem vars_assign_subset (x : String) (b : Bool) {f : Formula}
    {xs : List String} (h : f.vars ⊆ x :: xs) :
    (f.assign x b).vars ⊆ xs := by
  induction f with
  | const c => exact List.nil_subset xs
  | var y =>
    by_cases hy : y = x
    · simp [assign, hy, vars]
    · simpa [assign, hy, vars] using h
  | not f ih =>
    rw [assign, vars_simplifyNot]
    exact ih h
  | and f g ihf ihg =>
    obtain ⟨hf, hg⟩ := List.append_subset.1 h
    exact List.Subset.trans (vars_simplifyAnd_subset _ _)
      (List.append_subset.2 ⟨ihf hf, ihg hg⟩)
  | or f g ihf ihg =>
    obtain ⟨hf, hg⟩ := List.append_subset.1 h
    exact List.Subset.trans (vars_simplifyOr_subset _ _)
      (List.append_subset.2 ⟨ihf hf, ihg hg⟩)

/-- A formula can be made true when it can after one of its variables is given a
value. -/
theorem exists_eval_iff_assign (x : String) (f : Formula) :
    (∃ ρ, f.eval ρ = true) ↔
      (∃ ρ, (f.assign x true).eval ρ = true) ∨
        ∃ ρ, (f.assign x false).eval ρ = true := by
  constructor
  · rintro ⟨ρ, h⟩
    have hρ : (f.assign x (ρ x)).eval ρ = true := by
      rw [eval_assign, Function.update_eq_self, h]
    cases hx : ρ x <;> rw [hx] at hρ
    · exact .inr ⟨ρ, hρ⟩
    · exact .inl ⟨ρ, hρ⟩
  · rintro (⟨ρ, h⟩ | ⟨ρ, h⟩)
    · exact ⟨_, by rwa [eval_assign] at h⟩
    · exact ⟨_, by rwa [eval_assign] at h⟩

/-! ### The search -/

/-- The search over a list that has all variables of a formula finds an
assignment exactly when there is one. -/
theorem satisfiableOver_iff {xs : List String} {f : Formula} (h : f.vars ⊆ xs) :
    satisfiableOver xs f = true ↔ ∃ ρ, f.eval ρ = true := by
  -- The second value is not tried where it gives the same formula, in which
  -- case it cannot give another answer.
  fun_induction satisfiableOver xs f with
  | case1 xs b => simp [eval]
  | case2 f hf =>
    -- Without variables one assignment is as good as any.
    refine ⟨fun ht => ⟨_, ht⟩, ?_⟩
    rintro ⟨ρ, hρ⟩
    rwa [eval_congr fun x hx => absurd (h hx) List.not_mem_nil] at hρ
  | case3 x xs f hf iht ihf =>
    rw [exists_eval_iff_assign x f, ← iht (vars_assign_subset x true h),
      ← ihf (vars_assign_subset x false h)]
    by_cases he : f.assign x false = f.assign x true
    · simp [he]
    · simp [he]

/-- The search tells whether some assignment makes a formula true. -/
theorem satisfiable_iff (f : Formula) :
    f.satisfiable = true ↔ ∃ ρ, f.eval ρ = true :=
  satisfiableOver_iff fun _ hx => List.mem_eraseDups.2 hx

theorem not_satisfiable_iff (f : Formula) :
    (!f.satisfiable) = true ↔ f.Unsatisfiable := by
  rw [Bool.not_eq_true', ← Bool.not_eq_true, satisfiable_iff]
  simp [Unsatisfiable]

end SqlDiagnosis.Formula
