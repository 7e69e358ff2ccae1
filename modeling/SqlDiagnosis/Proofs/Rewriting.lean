import Mathlib.Data.List.Infix

/-!
# Replacing parts of a list

Every occurrence of a list in another is replaced, from left to right and
without overlap. Two such replacements can be exchanged when neither can get in
the way of the other: when what one looks for overlaps neither what the other
looks for nor what the other puts in its place (`replaceAll_comm`).

Overlap is said without mentioning occurrences: one list *meets* another if some
end of the first is a beginning of the second, or begins with it. So an
occurrence of the second can begin inside the first only if the first meets it.
-/

namespace SqlDiagnosis.Rewriting

variable {α : Type} {old new old₁ old₂ new₁ new₂ xs ys : List α} {x : α}

/-! ### Overlap -/

/-- Some end of `xs` is a beginning of `ys`, or begins with `ys`. -/
def Meets (xs ys : List α) : Prop :=
  ∃ s ∈ xs.tails, s ≠ [] ∧ (s <+: ys ∨ ys <+: s)

instance [DecidableEq α] (xs ys : List α) : Decidable (Meets xs ys) := by
  unfold Meets
  infer_instance

/-- Neither list meets the other. -/
def Apart (xs ys : List α) : Prop := ¬ Meets xs ys ∧ ¬ Meets ys xs

instance [DecidableEq α] (xs ys : List α) : Decidable (Apart xs ys) := by
  unfold Apart
  infer_instance

theorem Apart.symm (h : Apart xs ys) : Apart ys xs := ⟨h.2, h.1⟩

/-- A list meets another if one of them is a beginning of the other. -/
theorem meets_of_comparable (hne : xs ≠ []) (h : xs <+: ys ∨ ys <+: xs) :
    Meets xs ys :=
  ⟨xs, (List.mem_tails _ _).mpr (List.suffix_refl xs), hne, h⟩

theorem Meets.of_suffix {zs : List α} (h : Meets xs ys) (hsuffix : xs <:+ zs) :
    Meets zs ys := by
  obtain ⟨s, hs, hne, hmeet⟩ := h
  rw [List.mem_tails] at hs
  exact ⟨s, (List.mem_tails _ _).mpr (hs.trans hsuffix), hne, hmeet⟩

/-- What is left behind an occurrence is shorter. -/
theorem length_lt_length_append (hold : old ≠ []) (xs : List α) :
    xs.length < (old ++ xs).length := by
  have hpos := List.length_pos_of_ne_nil hold
  rw [List.length_append]
  omega

variable [DecidableEq α]

/-! ### Replacement -/

/-- Replace the occurrences of `old` by `new` in a list of which the first
`skip` members belong to an occurrence that is already replaced. -/
def replaceAfter (old new : List α) (skip : Nat) : List α → List α
  | [] => []
  | x :: xs =>
    match skip with
    | skip + 1 => replaceAfter old new skip xs
    | 0 =>
      if old <+: x :: xs then new ++ replaceAfter old new (old.length - 1) xs
      else x :: replaceAfter old new 0 xs

/-- Replace every occurrence of `old` by `new`. -/
def replaceAll (old new xs : List α) : List α := replaceAfter old new 0 xs

/-- What belongs to an occurrence is passed over. -/
theorem replaceAfter_length_append (xs ys : List α) :
    replaceAfter old new xs.length (xs ++ ys) = replaceAll old new ys := by
  induction xs with
  | nil => rfl
  | cons x xs ih => exact ih

/-- An occurrence at the beginning is replaced. -/
theorem replaceAll_append_left (hold : old ≠ []) (xs : List α) :
    replaceAll old new (old ++ xs) = new ++ replaceAll old new xs := by
  obtain ⟨x, rest, rfl⟩ := List.exists_cons_of_ne_nil hold
  have hprefix : x :: rest <+: x :: (rest ++ xs) :=
    List.prefix_append (x :: rest) xs
  show replaceAfter (x :: rest) new 0 (x :: (rest ++ xs)) = _
  rw [replaceAfter, if_pos hprefix]
  congr 1
  exact replaceAfter_length_append rest xs

theorem replaceAll_cons (h : ¬ old <+: x :: xs) :
    replaceAll old new (x :: xs) = x :: replaceAll old new xs := by
  show replaceAfter old new 0 (x :: xs) = _
  rw [replaceAfter, if_neg h]
  rfl

/-- A list of one member is replaced member by member. -/
theorem replaceAll_singleton (old : α) (new xs : List α) :
    replaceAll [old] new xs =
      xs.flatMap fun x => if x = old then new else [x] := by
  induction xs with
  | nil => rfl
  | cons x xs ih =>
    rw [List.flatMap_cons, ← ih]
    by_cases hx : x = old
    · subst hx
      rw [if_pos rfl]
      exact replaceAll_append_left (List.cons_ne_nil x []) xs
    · have hmiss : ¬ [old] <+: x :: xs :=
        fun h => hx (List.cons_prefix_cons.mp h).1.symm
      rw [if_neg hx, replaceAll_cons hmiss]
      rfl

/-- Induction along the occurrences of a list: at each place there is either an
occurrence, which is passed as a whole, or none. -/
theorem occurrence_induction {motive : List α → Prop} (hold : old ≠ [])
    (nil : motive []) (hit : ∀ xs, motive xs → motive (old ++ xs))
    (miss : ∀ x xs, ¬ old <+: x :: xs → motive xs → motive (x :: xs))
    (xs : List α) : motive xs := by
  induction hn : xs.length using Nat.strong_induction_on generalizing xs with
  | _ n ih =>
    subst hn
    by_cases h : old <+: xs
    · obtain ⟨ys, rfl⟩ := h
      exact hit ys (ih ys.length (length_lt_length_append hold ys) ys rfl)
    · cases xs with
      | nil => exact nil
      | cons x xs => exact miss x xs h (ih xs.length (by simp) xs rfl)

/-- Nothing is replaced in a list inside which no occurrence can begin. -/
theorem replaceAll_append_of_not_meets (h : ¬ Meets xs old) (ys : List α) :
    replaceAll old new (xs ++ ys) = xs ++ replaceAll old new ys := by
  induction xs with
  | nil => rfl
  | cons x xs ih =>
    have hmiss : ¬ old <+: x :: (xs ++ ys) := by
      intro hprefix
      have hcomparable := List.prefix_or_prefix_of_prefix
        (List.prefix_append (x :: xs) ys) hprefix
      exact h (meets_of_comparable (List.cons_ne_nil x xs) hcomparable)
    have hrest : ¬ Meets xs old :=
      fun hmeets => h (hmeets.of_suffix (List.suffix_cons x xs))
    rw [List.cons_append, replaceAll_cons hmiss, ih hrest]
    rfl

/-- What overlaps no replacement is not brought about by replacing. -/
theorem prefix_of_prefix_replaceAll (hold : old ≠ []) (h : ¬ Meets ys new)
    (hys : ys <+: replaceAll old new xs) :
    ys <+: xs := by
  induction xs using occurrence_induction hold generalizing ys with
  | nil => exact hys
  | hit xs _ =>
    rw [replaceAll_append_left hold] at hys
    cases ys with
    | nil => exact List.nil_prefix
    | cons y ys =>
      have hcomparable :=
        List.prefix_or_prefix_of_prefix hys (List.prefix_append new _)
      exact absurd (meets_of_comparable (List.cons_ne_nil y ys) hcomparable) h
  | miss x xs hmiss ih =>
    rw [replaceAll_cons hmiss] at hys
    cases ys with
    | nil => exact List.nil_prefix
    | cons y ys =>
      obtain ⟨rfl, hrest⟩ := List.cons_prefix_cons.mp hys
      have hmeets : ¬ Meets ys new :=
        fun hmeets => h (hmeets.of_suffix (List.suffix_cons y ys))
      exact List.cons_prefix_cons.mpr ⟨rfl, ih hmeets hrest⟩

/-! ### Exchange -/

/-- At an occurrence of what one replacement looks for, the other passes by. -/
theorem replaceAll_comm_append (h₁ : old₁ ≠ []) (hold : ¬ Meets old₁ old₂)
    (hnew : ¬ Meets new₁ old₂)
    (ih : replaceAll old₁ new₁ (replaceAll old₂ new₂ xs) =
      replaceAll old₂ new₂ (replaceAll old₁ new₁ xs)) :
    replaceAll old₁ new₁ (replaceAll old₂ new₂ (old₁ ++ xs)) =
      replaceAll old₂ new₂ (replaceAll old₁ new₁ (old₁ ++ xs)) := by
  rw [replaceAll_append_of_not_meets hold, replaceAll_append_left h₁,
    replaceAll_append_left h₁, replaceAll_append_of_not_meets hnew, ih]

/-- **Exchange of replacements.** Two replacements can be made in either order
when what each looks for is apart from what the other looks for and from what
the other puts in its place. -/
theorem replaceAll_comm (h₁ : old₁ ≠ []) (h₂ : old₂ ≠ [])
    (hold : Apart old₁ old₂) (h₁₂ : Apart old₁ new₂) (h₂₁ : Apart old₂ new₁)
    (xs : List α) :
    replaceAll old₁ new₁ (replaceAll old₂ new₂ xs) =
      replaceAll old₂ new₂ (replaceAll old₁ new₁ xs) := by
  -- an occurrence is passed as a whole, so the induction is on the length
  induction hn : xs.length using Nat.strong_induction_on generalizing xs with
  | _ n ih =>
    subst hn
    by_cases hfirst : old₁ <+: xs
    · obtain ⟨ys, rfl⟩ := hfirst
      have hrest := ih ys.length (length_lt_length_append h₁ ys) ys rfl
      exact replaceAll_comm_append h₁ hold.1 h₂₁.2 hrest
    · by_cases hsecond : old₂ <+: xs
      · obtain ⟨ys, rfl⟩ := hsecond
        have hrest := ih ys.length (length_lt_length_append h₂ ys) ys rfl
        exact (replaceAll_comm_append h₂ hold.2 h₁₂.2 hrest.symm).symm
      · cases xs with
        | nil => rfl
        | cons x xs =>
          -- neither occurs here, and neither replacement makes the other occur
          have hfirst' : ¬ old₁ <+: x :: replaceAll old₂ new₂ xs := by
            intro h
            rw [← replaceAll_cons hsecond] at h
            exact hfirst (prefix_of_prefix_replaceAll h₂ h₁₂.1 h)
          have hsecond' : ¬ old₂ <+: x :: replaceAll old₁ new₁ xs := by
            intro h
            rw [← replaceAll_cons hfirst] at h
            exact hsecond (prefix_of_prefix_replaceAll h₁ h₂₁.1 h)
          rw [replaceAll_cons hfirst, replaceAll_cons hsecond,
            replaceAll_cons hfirst', replaceAll_cons hsecond',
            ih xs.length (by simp) xs rfl]

end SqlDiagnosis.Rewriting
