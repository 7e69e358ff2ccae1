import SqlDiagnosis.Check.Clause
import SqlDiagnosis.Proofs.Collection
import SqlDiagnosis.Proofs.SelectAnswer

/-!
# Repeated clauses

The checks of clauses take the selects of a query one by one (`SelectWise`). Two
of them count. One counts the WHERE keywords among the tokens of a select. The
other counts, for each clause, the tokens that open it, and reports those that
come several times. A WHERE clause is opened by a WHERE keyword and by nothing
else, and each clause is reported once with its count, so both report the same
selects with the same counts.
-/

namespace SqlDiagnosis

namespace Clause

variable {c : Clause} {t : Token}

theorem selectWise_whereFindings : SelectWise whereFindings :=
  selectWise_filterMap _

theorem selectWise_repetitionFindings : SelectWise repetitionFindings :=
  selectWise_flatMap _

/-! ### Keywords and the clauses they open -/

/-- A clause is known by its keyword. -/
theorem keyword_injective : Function.Injective keyword := by
  intro c d
  cases c <;> cases d <;> simp [keyword]

theorem mem_order (c : Clause) : c ∈ order := by
  cases c <;> decide

/-- A word is the keyword of the clause that it is looked up as. -/
theorem ofKeyword?_eq_some_iff {word : String} :
    ofKeyword? word = some c ↔ word = c.keyword := by
  constructor
  · intro h
    have hword := List.find?_some h
    exact (eq_of_beq hword).symm
  · rintro rfl
    cases c <;> rfl

theorem not_keyword_of_dml (h : t.hasType .dml) :
    t.hasType .keyword = false := by
  have htype : t.type = some .dml := eq_of_beq h
  rw [Token.hasType, htype]
  decide

/-- Only its keyword opens a clause other than SELECT. -/
theorem opened?_eq_some_iff (hc : c ≠ select) :
    opened? t = some c ↔ t.isKeyword c.keyword := by
  unfold opened? Token.isKeyword
  by_cases hdml : t.hasType .dml
  · -- a statement opens SELECT or nothing, and is no keyword
    rw [hdml, not_keyword_of_dml hdml]
    by_cases hselect : Text.upper t.text = select.keyword
    · simp [hselect, Ne.symm hc]
    · simp [hselect]
  · rw [Bool.not_eq_true] at hdml
    rw [hdml]
    by_cases hkeyword : t.hasType .keyword
    · simp [hkeyword, ofKeyword?_eq_some_iff]
    · simp [hkeyword]

/-- A clause other than SELECT is opened as often as its keyword occurs. -/
theorem count_opened (hc : c ≠ select) (tokens : List Token) :
    (tokens.filterMap opened?).count c =
      tokens.countP (·.isKeyword c.keyword) := by
  rw [List.count_filterMap]
  refine List.countP_congr fun t _ => ?_
  rw [beq_iff_eq, opened?_eq_some_iff hc]

/-! ### One report for a clause -/

/-- A clause that comes several times is listed once, with its count. -/
theorem filter_repeated (clauses : List Clause) (c : Clause) :
    (repeated clauses).filter (·.1 == c) =
      if 1 < clauses.count c then [(c, clauses.count c)] else [] := by
  -- only `c` passes the filter, so its count may stand for that of every clause
  have hpair : ∀ d,
      ((d, clauses.count d).1 == c && decide (1 < (d, clauses.count d).2)) =
        (d == c && decide (1 < clauses.count c)) := by
    intro d
    by_cases hd : d = c
    · rw [hd]
    · rw [beq_false_of_ne hd, Bool.false_and, Bool.false_and]
  rw [repeated, List.filter_filter, List.filter_map]
  simp only [Function.comp_def, hpair]
  by_cases hcount : 1 < clauses.count c
  · have hmem : c ∈ clauses.eraseDups := by
      rw [List.mem_eraseDups, ← List.count_pos_iff]
      omega
    -- each clause is listed once, and counted in the list as a whole
    have hone : clauses.eraseDups.count c = 1 :=
      List.count_eq_one_of_mem (nodup_eraseDups clauses) hmem
    simp [hcount, List.filter_beq, hone]
  · simp [hcount]

/-! ### Findings about WHERE -/

/-- The finding about a clause that comes several times. -/
def repetition (c : Clause) (count : Nat) : Finding :=
  ⟨.duplicateClause, [.text c.keyword, .int count]⟩

/-- The finding about a select with several WHERE clauses. -/
def severalWheres (s : Select) (count : Nat) : Finding :=
  ⟨.whereTwice, [.text s.sql, .int count]⟩

/-- Whether the first thing that a finding names is this clause. -/
def isAbout (c : Clause) (f : Finding) : Bool :=
  match f.data with
  | .value (.text word) :: _ => word == c.keyword
  | _ => false

/-- The count that a finding carries in the second place. -/
def count? (f : Finding) : Option Int :=
  match f.data with
  | [_, .value (.int n)] => some n
  | _ => none

/-- A finding about a repeated clause names this clause. -/
theorem isAbout_repetition (c d : Clause) (count : Nat) :
    isAbout c (repetition d count) = (d == c) := by
  show (d.keyword == c.keyword) = (d == c)
  rw [Bool.eq_iff_iff, beq_iff_eq, beq_iff_eq, keyword_injective.eq_iff]

section Select

variable (q : Query) (s : Select)

/-- A select contributes one finding if it has several WHERE clauses. -/
theorem answerFor_whereFindings : answerFor whereFindings q s =
    if 1 < whereCount s.stripped.tokens then
      [severalWheres s (whereCount s.stripped.tokens)] else [] := by
  unfold whereFindings
  rw [answerFor_filterMap]
  show Option.toList (if 1 < whereCount s.stripped.tokens then _ else _) = _
  split
  · rfl
  · rfl

/-- A select contributes a finding for each clause that is repeated in it. -/
theorem answerFor_repetitionFindings : answerFor repetitionFindings q s =
    (repeated (s.stripped.tokens.filterMap opened?)).map fun r =>
      repetition r.1 r.2 := by
  unfold repetitionFindings
  rw [answerFor_flatMap]
  rfl

/-- Both checks count the same. -/
theorem filter_answerFor_repetitionFindings :
    (answerFor repetitionFindings q s).filter (isAbout filter) =
      if 1 < whereCount s.stripped.tokens then
        [repetition filter (whereCount s.stripped.tokens)] else [] := by
  have hwhere : (isAbout filter ∘ fun r : Clause × Nat => repetition r.1 r.2) =
      (·.1 == filter) := by
    funext r
    exact isAbout_repetition filter r.1 r.2
  rw [answerFor_repetitionFindings, List.filter_map, hwhere, filter_repeated,
    count_opened (by decide)]
  show List.map _ (if 1 < whereCount _ then _ else _) = _
  split
  · rfl
  · rfl

end Select

/-- The counts of the selects that have several WHERE clauses. -/
def severalCounts (q : Query) : List Nat :=
  q.selects.flatMap fun s =>
    if 1 < whereCount s.stripped.tokens then [whereCount s.stripped.tokens]
    else []

theorem map_count?_whereFindings (q : Query) :
    (whereFindings q).map count? =
      (severalCounts q).map fun n : Nat => some (n : Int) := by
  rw [selectWise_iff.mp selectWise_whereFindings q, severalCounts,
    List.map_flatMap, List.map_flatMap]
  refine List.flatMap_congr fun s _ => ?_
  rw [answerFor_whereFindings]
  split
  · rfl
  · rfl

/-- The counts of the repeated WHERE clauses, select by select. -/
theorem map_count?_repetitionFindings (q : Query) :
    ((repetitionFindings q).filter (isAbout filter)).map count? =
      (severalCounts q).map fun n : Nat => some (n : Int) := by
  rw [selectWise_iff.mp selectWise_repetitionFindings q, severalCounts,
    List.filter_flatMap, List.map_flatMap, List.map_flatMap]
  refine List.flatMap_congr fun s _ => ?_
  rw [filter_answerFor_repetitionFindings]
  split
  · rfl
  · rfl

/-- **WHERE is counted alike.** The counts in the findings about selects with
several WHERE clauses are, in their order, the counts in the findings about
repeated clauses that name WHERE: both are those of the selects that have
several. Of either kind there is a finding for a select if, and only if, there
is one of the other kind with the same count. -/
theorem where_counts_agree (q : Query) :
    ((whereFindings q).map count? =
      ((repetitionFindings q).filter (isAbout filter)).map count? ∧
      (whereFindings q).map count? =
        (severalCounts q).map fun n : Nat => some (n : Int)) ∧
    (SelectWise whereFindings ∧ SelectWise repetitionFindings) ∧
    ∀ s count, severalWheres s count ∈ answerFor whereFindings q s ↔
      repetition filter count ∈ answerFor repetitionFindings q s := by
  refine ⟨⟨?_, map_count?_whereFindings q⟩,
    ⟨selectWise_whereFindings, selectWise_repetitionFindings⟩,
    fun s count => ?_⟩
  · rw [map_count?_whereFindings, map_count?_repetitionFindings]
  · have hnamed : isAbout filter (repetition filter count) := by
      rw [isAbout_repetition]
      decide
    have hkept : repetition filter count ∈ answerFor repetitionFindings q s ↔
        repetition filter count ∈
          (answerFor repetitionFindings q s).filter (isAbout filter) := by
      rw [List.mem_filter, and_iff_left hnamed]
    rw [hkept, filter_answerFor_repetitionFindings, answerFor_whereFindings]
    split
    · simp [severalWheres, repetition]
    · exact iff_of_false List.not_mem_nil List.not_mem_nil

end Clause

end SqlDiagnosis
