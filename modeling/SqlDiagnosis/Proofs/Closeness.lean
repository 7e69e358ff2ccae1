import Mathlib.Data.Prod.Lex
import Mathlib.Data.String.Basic
import Mathlib.Algebra.Order.Field.Rat
import SqlDiagnosis.Proofs.Lookup

/-!
# The closest candidate

Similarities are kept as fractions and compared by cross multiplication, which
is an order only between fractions with positive denominators. A similarity has
one, so it stands for a rational number (`ratio`), and the order of the
candidates is the lexicographic order of similarity and text (`rank`).

The closest candidate is the one of the greatest rank, if its similarity is at
least three fifths. Two candidates never have the same rank, so there is at most
one such candidate, and it depends on which candidates there are and not on
their order or number.
-/

namespace SqlDiagnosis.Text

/-! ### Fractions -/

/-- The number that a fraction stands for. -/
def Ratio.value (r : Ratio) : ℚ := r.num / r.den

/-- Fractions with positive denominators are compared like the numbers they
stand for. -/
theorem Ratio.le_iff_value_le {p q : Ratio} (hp : 0 < p.den) (hq : 0 < q.den) :
    p.le q = true ↔ p.value ≤ q.value := by
  have hp' : (0 : ℚ) < p.den := Nat.cast_pos.mpr hp
  have hq' : (0 : ℚ) < q.den := Nat.cast_pos.mpr hq
  rw [Ratio.le, decide_eq_true_iff, Ratio.value, Ratio.value,
    div_le_div_iff₀ hp' hq']
  exact_mod_cast Iff.rfl

/-- Two empty texts count as equal, so no similarity has the denominator
zero. -/
theorem den_similarity_pos (candidate word : List Char) :
    0 < (similarity candidate word).den := by
  rw [similarity]
  split
  · exact Nat.one_pos
  · next htotal => exact Nat.pos_of_ne_zero htotal

/-- The similarity of a candidate to a word. -/
def ratio (word candidate : String) : ℚ :=
  (similarity candidate.toList word.toList).value

/-- A candidate is close enough if it is similar by at least three fifths. -/
theorem isClose_iff {word candidate : String} :
    IsClose word candidate ↔ 3 / 5 ≤ ratio word candidate := by
  have hthreshold : Ratio.threshold.value = 3 / 5 := by
    simp [Ratio.threshold, Ratio.value]
  rw [IsClose, Ratio.le_iff_value_le (by decide) (den_similarity_pos _ _),
    hthreshold, ratio]

/-! ### The order of candidates -/

/-- The place of a candidate in the order: by similarity, then by text. -/
def rank (word candidate : String) : ℚ ×ₗ String :=
  toLex (ratio word candidate, candidate)

theorem rank_injective (word : String) : Function.Injective (rank word) :=
  fun _ _ h => congrArg (·.2) h

/-- A candidate with its similarity to a word. -/
def scored (word candidate : String) : Ratio × String :=
  (similarity candidate.toList word.toList, candidate)

/-- Scored candidates are compared by their ranks. -/
theorem scoredBefore_iff {word c d : String} :
    scoredBefore (scored word c) (scored word d) = true ↔
      rank word c < rank word d := by
  have hle : ∀ c d, (scored word c).1.le (scored word d).1 = true ↔
      ratio word c ≤ ratio word d :=
    fun c d => Ratio.le_iff_value_le
      (den_similarity_pos _ _) (den_similarity_pos _ _)
  rw [rank, rank, Prod.Lex.toLex_lt_toLex, scoredBefore, Bool.or_eq_true,
    Bool.and_eq_true, Bool.not_eq_true', ← Bool.not_eq_true, hle, hle, not_le,
    decide_eq_true_iff]
  show _ ∨ _ ∧ c < d ↔ _ ∨ _ ∧ c < d
  -- the texts are compared also where the first similarity is smaller, which
  -- the first alternative covers already
  constructor
  · rintro (hlt | ⟨hratio, htext⟩)
    · exact .inl hlt
    · exact hratio.lt_or_eq.imp id fun heq => ⟨heq, htext⟩
  · rintro (hlt | ⟨hratio, htext⟩)
    · exact .inl hlt
    · exact .inr ⟨hratio.le, htext⟩

/-- The greatest scored candidate is one of them, and none has a greater
rank. -/
theorem greatestScored_map_eq_some {word : String} {candidates : List String}
    {p : Ratio × String}
    (h : greatestScored (candidates.map (scored word)) = some p) :
    ∃ name ∈ candidates, p = scored word name ∧
      ∀ c ∈ candidates, rank word c ≤ rank word name := by
  induction candidates generalizing p with
  | nil => cases h
  | cons first rest ih =>
    rw [List.map_cons, greatestScored] at h
    split at h
    · next hnone =>
      cases h
      rw [greatestScored_eq_none_iff, List.map_eq_nil_iff] at hnone
      subst hnone
      exact ⟨first, List.mem_cons_self, rfl, by simp⟩
    · next best hbest =>
      obtain ⟨name, hname, rfl, hgreatest⟩ := ih hbest
      by_cases hbefore :
          scoredBefore (scored word first) (scored word name) = true
      · rw [if_pos hbefore] at h
        cases h
        refine ⟨name, List.mem_cons_of_mem _ hname, rfl,
          List.forall_mem_cons.mpr ⟨?_, hgreatest⟩⟩
        exact (scoredBefore_iff.mp hbefore).le
      · -- the first candidate is not before the best of the rest, hence before
        -- none of them
        rw [if_neg hbefore] at h
        cases h
        rw [scoredBefore_iff, not_lt] at hbefore
        refine ⟨first, List.mem_cons_self, rfl,
          List.forall_mem_cons.mpr ⟨le_rfl, fun c hc => ?_⟩⟩
        exact (hgreatest c hc).trans hbefore

/-! ### The closest candidate -/

/-- A candidate is close enough to a word, and no other is closer. -/
structure IsClosest (word : String) (candidates : List String)
    (name : String) : Prop where
  mem : name ∈ candidates
  close : 3 / 5 ≤ ratio word name
  greatest : ∀ c ∈ candidates, rank word c ≤ rank word name

theorem IsClosest.unique {word name name' : String} {candidates : List String}
    (h : IsClosest word candidates name)
    (h' : IsClosest word candidates name') : name = name' :=
  rank_injective word
    (le_antisymm (h'.greatest name h.mem) (h.greatest name' h'.mem))

theorem scoredCandidates_eq (word : String) (candidates : List String) :
    scoredCandidates word candidates =
      (candidates.filter fun c => Ratio.threshold.le (scored word c).1).map
        (scored word) := by
  rw [scoredCandidates, List.filter_map]
  rfl

theorem isClosest_of_closest? {word name : String} {candidates : List String}
    (h : closest? word candidates = some name) :
    IsClosest word candidates name := by
  rw [closest?, Option.map_eq_some_iff, scoredCandidates_eq] at h
  obtain ⟨p, hp, rfl⟩ := h
  obtain ⟨name, hname, rfl, hgreatest⟩ := greatestScored_map_eq_some hp
  obtain ⟨hmem, hclose⟩ := List.mem_filter.mp hname
  have hratio : 3 / 5 ≤ ratio word name := isClose_iff.mp hclose
  refine ⟨hmem, hratio, fun c hc => ?_⟩
  by_cases hcclose : IsClose word c
  · exact hgreatest c (List.mem_filter.mpr ⟨hc, hcclose⟩)
  · -- what is not close enough is less similar than what is
    rw [isClose_iff, not_le] at hcclose
    exact (Prod.Lex.toLex_lt_toLex.mpr (.inl (hcclose.trans_le hratio))).le

/-- The closest candidate is the one that is greatest by similarity and text, if
it is close enough. -/
theorem closest?_eq_some_iff {word name : String} {candidates : List String} :
    closest? word candidates = some name ↔ IsClosest word candidates name := by
  refine ⟨isClosest_of_closest?, fun h => ?_⟩
  -- if there is a closest candidate, some candidate is found, and that is a
  -- closest one as well
  have hsome : (closest? word candidates).isSome :=
    isSome_closest?_iff.mpr ⟨name, h.mem, isClose_iff.mpr h.close⟩
  obtain ⟨name', hname'⟩ := Option.isSome_iff_exists.mp hsome
  rw [hname', h.unique (isClosest_of_closest? hname')]

/-- Only the members of a list of candidates matter. -/
theorem closest?_eq_of_mem_iff {candidates candidates' : List String}
    (h : ∀ c, c ∈ candidates ↔ c ∈ candidates') (word : String) :
    closest? word candidates = closest? word candidates' := by
  refine Option.ext fun name => ?_
  rw [closest?_eq_some_iff, closest?_eq_some_iff]
  constructor
  · rintro ⟨hmem, hclose, hgreatest⟩
    exact ⟨(h name).mp hmem, hclose, fun c hc => hgreatest c ((h c).mpr hc)⟩
  · rintro ⟨hmem, hclose, hgreatest⟩
    exact ⟨(h name).mpr hmem, hclose, fun c hc => hgreatest c ((h c).mp hc)⟩

end SqlDiagnosis.Text
