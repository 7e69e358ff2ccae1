import Mathlib.Data.Finset.Max
import Mathlib.Data.List.Rotate
import SqlDiagnosis.Check.Bracket

/-!
# Balanced brackets

Round brackets are balanced when none is closed before it is opened and all are
closed in the end. With the depth for the number of brackets opened so far less
the number of those closed, this says that

    the depth is never below zero    and    is zero at the end.

The check compares totals, which is the second condition alone, so a query that
closes first and opens later passes. What it cannot see is where the tokens
begin: if they are read in a circle, from the place of least depth on, then the
depth is never below zero. So nothing is reported exactly when some *rotation*
of the brackets is balanced.
-/

namespace SqlDiagnosis.Bracket

variable {tokens : List Token}

/-! ### Depth -/

/-- The opening round bracket. -/
def opener : Token := ⟨some .punctuation, "("⟩

/-- The closing round bracket. -/
def closer : Token := ⟨some .punctuation, ")"⟩

/-- The round brackets among some tokens. -/
def rounds (tokens : List Token) : List Token :=
  tokens.filter fun t => t = opener ∨ t = closer

/-- How many more brackets are opened than closed. -/
def depth (tokens : List Token) : Int :=
  tokens.count opener - tokens.count closer

/-- No bracket is closed before it is opened, and all are closed in the end. -/
structure Balanced (tokens : List Token) : Prop where
  closed_le_opened : ∀ start, start <+: tokens →
      start.count closer ≤ start.count opener
  opened_eq_closed : tokens.count opener = tokens.count closer

theorem depth_append (first second : List Token) :
    depth (first ++ second) = depth first + depth second := by
  simp only [depth, List.count_append]
  omega

theorem depth_eq_zero_iff :
    depth tokens = 0 ↔ tokens.count opener = tokens.count closer := by
  unfold depth
  omega

/-- Brackets are balanced when the depth is never below zero and is zero at the
end. -/
theorem balanced_of_depth
    (hnonneg : ∀ start, start <+: tokens → 0 ≤ depth start)
    (hzero : depth tokens = 0) :
    Balanced tokens where
  closed_le_opened start hstart := by
    have hdepth := hnonneg start hstart
    unfold depth at hdepth
    omega
  opened_eq_closed := depth_eq_zero_iff.mp hzero

/-! ### Rotations -/

/-- There is a place up to which the depth is least. -/
theorem exists_least_depth (tokens : List Token) :
    ∃ above, above <+: tokens ∧
      ∀ start, start <+: tokens → depth above ≤ depth start := by
  have hne : tokens.inits.toFinset.Nonempty := ⟨[], by simp⟩
  obtain ⟨above, habove, hleast⟩ :=
    tokens.inits.toFinset.exists_min_image depth hne
  refine ⟨above, by simpa using habove, fun start hstart => hleast start ?_⟩
  simpa using hstart

/-- As many brackets opened as closed are balanced when they are read from the
place of least depth on. -/
theorem exists_balanced_rotate (hzero : depth tokens = 0) :
    ∃ k, Balanced (tokens.rotate k) := by
  obtain ⟨above, ⟨below, rfl⟩, hleast⟩ := exists_least_depth tokens
  refine ⟨above.length, ?_⟩
  rw [List.rotate_append_length_eq]
  rw [depth_append] at hzero
  refine balanced_of_depth (fun start hstart => ?_)
    (by rw [depth_append]; omega)
  rcases List.prefix_or_prefix_of_prefix hstart
    (List.prefix_append below above) with hbelow | ⟨again, rfl⟩
  · -- still in the part after the place of least depth
    have hdepth :=
      hleast (above ++ start) ((List.prefix_append_right_inj above).mpr hbelow)
    rw [depth_append] at hdepth
    omega
  · -- in the part that was moved to the end
    have hagain : again <+: above :=
      (List.prefix_append_right_inj below).mp hstart
    have hdepth := hleast again (hagain.trans (List.prefix_append above below))
    rw [depth_append]
    omega

/-- Rotations do not change the totals, so these decide whether one is
balanced. -/
theorem exists_balanced_rotate_iff :
    (∃ k, Balanced (tokens.rotate k)) ↔ depth tokens = 0 := by
  refine ⟨?_, exists_balanced_rotate⟩
  rintro ⟨k, hk⟩
  have hperm := tokens.rotate_perm k
  rw [depth_eq_zero_iff, ← hperm.count_eq, ← hperm.count_eq]
  exact hk.opened_eq_closed

theorem depth_rounds (tokens : List Token) :
    depth (rounds tokens) = depth tokens := by
  unfold depth rounds
  rw [List.count_filter (by simp), List.count_filter (by simp)]

/-! ### Reports -/

/-- A finding is about brackets of a shape. -/
def IsAbout (shape : Shape) (f : Finding) : Prop :=
  f.data.head? = some (.text shape.name)

theorem name_injective : Function.Injective Shape.name := by
  intro shape shape' h
  cases shape <;> cases shape' <;> simp [Shape.name] at h ⊢

/-- Brackets of a shape are reported just when their numbers are wrong. -/
theorem exists_isAbout_iff (shape : Shape) (q : Query) :
    (∃ f ∈ findings q, IsAbout shape f) ↔
      isWrong shape (counts shape q.tokens) = true := by
  constructor
  · rintro ⟨f, hf, habout⟩
    obtain ⟨shape', -, hshape⟩ := List.mem_filterMap.mp hf
    obtain ⟨hwrong, hfinding⟩ := Option.ite_none_right_eq_some.mp hshape
    obtain rfl := Option.some.inj hfinding
    simp only [IsAbout, List.head?_cons, Option.some.injEq, Datum.text,
      Datum.value.injEq, Value.text.injEq] at habout
    rw [← name_injective habout]
    exact hwrong
  · intro hwrong
    refine ⟨_, List.mem_filterMap.mpr ⟨shape, ?_, if_pos hwrong⟩, rfl⟩
    cases shape <;> simp

/-- Round brackets are counted token by token, since each of them is a token of
its own. -/
theorem count_round (bracket : Char) (text : String)
    (htext : text.toList = [bracket]) (tokens : List Token) :
    count .round bracket tokens = tokens.count ⟨some .punctuation, text⟩ := by
  induction tokens with
  | nil => rfl
  | cons t tokens ih =>
    rw [count, List.count_cons, ih, Nat.add_comm]
    congr 1
    obtain ⟨type, s⟩ := t
    by_cases htype : type = some .punctuation
    · by_cases hs : s = text
      · simp [occurrences, Token.hasType, Shape.tokenType, htype, hs, htext]
      · have hne : s.toList ≠ [bracket] :=
          fun h => hs (String.toList_injective (h.trans htext.symm))
        simp [occurrences, Token.hasType, Shape.tokenType, htype, hs, hne]
    · simp [occurrences, Token.hasType, Shape.tokenType, Shape.inNames, htype]

/-- Round brackets are unreported when their totals agree. -/
theorem unreported_iff (q : Query) :
    (∀ f ∈ findings q, ¬ IsAbout .round f) ↔ depth q.tokens = 0 := by
  have hopened : count .round '(' q.tokens = q.tokens.count opener :=
    count_round '(' "(" (by decide) q.tokens
  have hclosed : count .round ')' q.tokens = q.tokens.count closer :=
    count_round ')' ")" (by decide) q.tokens
  have hreported := exists_isAbout_iff .round q
  rw [counts, Shape.opening, Shape.closing, hopened, hclosed, isWrong,
    bne_iff_ne] at hreported
  rw [depth_eq_zero_iff, ← not_iff_not, ← Ne.eq_def, ← hreported]
  push Not
  rfl

/-- **Round brackets are compared up to rotation.** No round brackets are
reported exactly when some rotation of those of the query is balanced. This
tells whether they are balanced as they stand, except in one case: as many are
opened as closed, but somewhere more are closed than opened. -/
theorem round_brackets_up_to_rotation (q : Query) :
    ((∀ f ∈ findings q, ¬ IsAbout .round f) ↔
      ∃ k, Balanced ((rounds q.tokens).rotate k)) ∧
    (((∀ f ∈ findings q, ¬ IsAbout .round f) ↔ Balanced (rounds q.tokens)) ↔
      ((rounds q.tokens).count opener = (rounds q.tokens).count closer →
        ∀ start, start <+: rounds q.tokens →
          start.count closer ≤ start.count opener)) := by
  rw [unreported_iff, ← depth_rounds]
  refine ⟨exists_balanced_rotate_iff.symm, ?_⟩
  rw [depth_eq_zero_iff]
  constructor
  · intro hright htotals
    exact (hright.mp htotals).closed_le_opened
  · intro hstarts
    exact ⟨fun htotals => ⟨hstarts htotals, htotals⟩,
      fun hbalanced => hbalanced.opened_eq_closed⟩

/-! ### Brackets the wrong way round -/

/-- A count of all orders, with its brackets the wrong way round. -/
def swappedTokens : List Token :=
  [⟨some .dml, "SELECT"⟩, ⟨some .whitespace, " "⟩, ⟨some .name, "COUNT"⟩,
    closer, ⟨some ⟨["Wildcard"]⟩, "*"⟩, opener, ⟨some .whitespace, " "⟩,
    ⟨some .keyword, "FROM"⟩, ⟨some .whitespace, " "⟩, ⟨some .name, "orders"⟩,
    ⟨some .punctuation, ";"⟩]

/-- The query of these tokens. -/
def swappedQuery : Query :=
  ⟨⟨[swappedTokens], [], [], [], ⟨⟨none, [], []⟩, []⟩, []⟩,
    "SELECT COUNT)*( FROM orders;"⟩

/-- In `SELECT COUNT)*( FROM orders;` the brackets are not balanced, and nothing
is reported. -/
theorem swapped_brackets_unreported :
    ¬ Balanced (rounds swappedQuery.tokens) ∧
      ∀ f ∈ findings swappedQuery, ¬ IsAbout .round f := by
  constructor
  · intro hbalanced
    have hrounds : rounds swappedQuery.tokens = [closer, opener] := by decide
    rw [hrounds] at hbalanced
    exact absurd (hbalanced.closed_le_opened [closer] (List.prefix_append _ _))
      (by decide)
  · rw [unreported_iff]
    decide

end SqlDiagnosis.Bracket
