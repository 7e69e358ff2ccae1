import Mathlib.Data.List.Perm.Subperm
import SqlDiagnosis.Detector
import SqlDiagnosis.Proofs.Answer
import SqlDiagnosis.Proofs.Collection

/-!
# A query that is a solution

Some checks compare a query with all solutions at once. Each is described here
by the condition under which it finds nothing, and in these conditions the
solutions occur one by one: for what the query has, *some* solution is asked
for, and for what it lacks, a solution that does without. So a query that reads
like one of the solutions meets them, whatever the other solutions are.

There is one exception. A column counts as missing as soon as *some* solution
has it (`missingFindings_eq_nil_iff`), whereas a table counts as missing only if
all have it. So solutions that take their columns from different places are held
against each other.
-/

namespace SqlDiagnosis

variable {q s : Query} {solutions : List Query}

/-! ### Tables -/

namespace Join

variable {t : JoinedTable} {first : List JoinedTable}
  {rest : List (List JoinedTable)}

theorem nodup_tablesOf (q : Query) : (tablesOf q).Nodup := nodup_members _

/-- A table is common to the solutions when all of them use it. -/
theorem mem_common_iff : t ∈ common first rest ↔
    ∀ tables ∈ first :: rest, t ∈ tables := by
  simp [common]

/-- The tables of the solutions together are those that some solution uses. -/
theorem mem_together_iff : t ∈ together first rest ↔
    ∃ tables ∈ first :: rest, t ∈ tables := by
  simp [together]

/-- The tables that solutions have in common are listed once each. -/
theorem nodup_common (h : solutions.map tablesOf = first :: rest) :
    (common first rest).Nodup := by
  have hfirst : first ∈ solutions.map tablesOf := by
    rw [h]
    exact List.mem_cons_self
  obtain ⟨s, -, rfl⟩ := List.mem_map.mp hfirst
  exact (nodup_tablesOf s).filter _

theorem report_eq_nil_iff {category : Category}
    {tables allowed : List JoinedTable} :
    report category (tables.filter (!allowed.contains ·)) = [] ↔
      tables ⊆ allowed := by
  rw [report, List.map_eq_nil_iff, filter_not_contains_eq_nil_iff]

/-- Nothing is reported about the tables of a query when they are no fewer than
the common ones and all of them occur in solutions. Which tables are common does
not matter, only how many. -/
theorem compare_eq_nil_iff {actual common all : List JoinedTable}
    (hcommon : common.Nodup) :
    compare actual common all = [] ↔
      common.length ≤ actual.length ∧ actual ⊆ all := by
  unfold compare
  by_cases hfew : actual.length < common.length
  · -- with fewer tables than the solutions have in common, one of those is
    -- missing
    have hmissing : ¬ common ⊆ actual := by
      intro hsub
      have hle := hcommon.length_le_of_subset hsub
      omega
    rw [if_pos hfew, report_eq_nil_iff]
    constructor
    · intro hsub
      exact absurd hsub hmissing
    · rintro ⟨hle, -⟩
      omega
  · have hle : common.length ≤ actual.length := by omega
    rw [if_neg hfew]
    split
    · rw [report_eq_nil_iff, and_iff_right hle]
    · rw [report_eq_nil_iff, and_iff_right hle]

/-- The tables of a query are accepted when they are as many as the solutions
have in common, and each is one of some solution. -/
theorem findings_eq_nil_iff (h : solutions.map tablesOf = first :: rest) :
    findings q solutions = .ok [] ↔
      (common first rest).length ≤ (tablesOf q).length ∧
        ∀ t ∈ tablesOf q, ∃ s ∈ solutions, t ∈ tablesOf s := by
  rw [findings, h]
  simp only [Except.ok.injEq]
  rw [compare_eq_nil_iff (nodup_common h)]
  refine and_congr_right fun _ => forall_congr' fun t =>
    forall_congr' fun _ => ?_
  rw [mem_together_iff, ← h]
  simp

/-- The tables can be compared as soon as there is a solution. -/
theorem findings_ok (q : Query) (h : solutions ≠ []) :
    ∃ found, findings q solutions = .ok found := by
  rcases htables : solutions.map tablesOf with _ | ⟨first, rest⟩
  · exact absurd (List.map_eq_nil_iff.mp htables) h
  · exact ⟨_, by rw [findings, htables]⟩

theorem findings_of_mem (hs : s ∈ solutions) (hq : tablesOf q = tablesOf s) :
    findings q solutions = .ok [] := by
  have hmem : tablesOf s ∈ solutions.map tablesOf := List.mem_map_of_mem hs
  rcases h : solutions.map tablesOf with _ | ⟨first, rest⟩
  · rw [h] at hmem
    cases hmem
  · rw [h] at hmem
    have hsub : common first rest ⊆ tablesOf s :=
      fun t ht => mem_common_iff.mp ht _ hmem
    rw [findings_eq_nil_iff h, hq]
    exact ⟨(nodup_common h).length_le_of_subset hsub, fun t ht => ⟨s, hs, ht⟩⟩

end Join

/-! ### Columns -/

namespace Projection

variable {category : Category}

/-- A column counts as required as soon as one solution has it. -/
theorem mem_required_iff {c : OutputSource} :
    c ∈ required solutions ↔ ∃ s ∈ solutions, c ∈ s.sources := by
  simp [required]

/-- Findings about the number of columns and about single ones: there are none
when the number is right and the columns are among those that are allowed. -/
theorem sized_eq_nil_iff {p : Prop} [Decidable p] {f : Finding}
    {columns allowed : List OutputSource} :
    (if p then [f] else []) ++
      report category (columns.filter (!allowed.contains ·)) = [] ↔
      ¬ p ∧ columns ⊆ allowed := by
  rw [List.append_eq_nil_iff, report, List.map_eq_nil_iff,
    filter_not_contains_eq_nil_iff]
  -- the first finding is there or not, whatever the columns are
  by_cases hp : p
  · simp [hp]
  · simp [hp]

/-- No column is extraneous when some solution has as many, and each comes from
where some solution takes one. -/
theorem extraneousFindings_eq_nil_iff :
    extraneousFindings q solutions = .ok [] ↔
      (∃ s ∈ solutions, width q ≤ width s) ∧
        ∀ c ∈ q.sources, ∃ s ∈ solutions, c ∈ s.sources := by
  unfold extraneousFindings
  rcases h : (solutions.map width).max? with _ | greatest
  · rw [List.max?_eq_none_iff, List.map_eq_nil_iff] at h
    simp [h]
  · obtain ⟨hmem, hle⟩ := List.max?_eq_some_iff.mp h
    obtain ⟨s, hs, rfl⟩ := List.mem_map.mp hmem
    -- the greatest number of columns is that of one solution and bounds all
    -- others
    have hwidth : ¬ width s < width q ↔ ∃ s ∈ solutions, width q ≤ width s := by
      rw [Nat.not_lt]
      constructor
      · intro hq
        exact ⟨s, hs, hq⟩
      · rintro ⟨s', hs', hq⟩
        exact Nat.le_trans hq (hle _ (List.mem_map_of_mem hs'))
    simp only [Except.ok.injEq]
    rw [sized_eq_nil_iff, hwidth]
    refine and_congr_right fun _ => forall_congr' fun c => ?_
    rw [mem_members, mem_required_iff]

/-- No column is missing when some solution has no more, and the query takes
columns from wherever a solution does. -/
theorem missingFindings_eq_nil_iff : missingFindings q solutions = .ok [] ↔
    (∃ s ∈ solutions, width s ≤ width q) ∧
      ∀ s ∈ solutions, s.sources ⊆ q.sources := by
  unfold missingFindings
  rcases h : (solutions.map width).min? with _ | least
  · rw [List.min?_eq_none_iff, List.map_eq_nil_iff] at h
    simp [h]
  · obtain ⟨hmem, hle⟩ := List.min?_eq_some_iff.mp h
    obtain ⟨s, hs, rfl⟩ := List.mem_map.mp hmem
    -- likewise for the least number
    have hwidth : ¬ width q < width s ↔ ∃ s ∈ solutions, width s ≤ width q := by
      rw [Nat.not_lt]
      constructor
      · intro hq
        exact ⟨s, hs, hq⟩
      · rintro ⟨s', hs', hq⟩
        exact Nat.le_trans (hle _ (List.mem_map_of_mem hs')) hq
    simp only [Except.ok.injEq]
    rw [sized_eq_nil_iff, hwidth]
    refine and_congr_right fun _ => ?_
    constructor
    · intro hsub s' hs' c hc
      exact hsub (mem_required_iff.mpr ⟨s', hs', hc⟩)
    · intro hall c hc
      obtain ⟨s', hs', hc'⟩ := mem_required_iff.mp hc
      exact hall s' hs' hc'

/-- The numbers of columns of the solutions have a greatest one as soon as there
is a solution. -/
theorem extraneousFindings_ok (q : Query) (h : solutions ≠ []) :
    ∃ found, extraneousFindings q solutions = .ok found := by
  unfold extraneousFindings
  rcases hmax : (solutions.map width).max? with _ | greatest
  · rw [List.max?_eq_none_iff, List.map_eq_nil_iff] at hmax
    exact absurd hmax h
  · exact ⟨_, rfl⟩

theorem missingFindings_ok (q : Query) (h : solutions ≠ []) :
    ∃ found, missingFindings q solutions = .ok found := by
  unfold missingFindings
  rcases hmin : (solutions.map width).min? with _ | least
  · rw [List.min?_eq_none_iff, List.map_eq_nil_iff] at hmin
    exact absurd hmin h
  · exact ⟨_, rfl⟩

/-- A name is common to the solutions when all of them have it. -/
theorem mem_commonNames_iff {name : Option String} (h : solutions ≠ []) :
    name ∈ commonNames solutions ↔ ∀ s ∈ solutions, name ∈ columnNames s := by
  rcases solutions with _ | ⟨first, rest⟩
  · exact absurd rfl h
  · simp [commonNames]

/-- No name is missing when the columns are wrong anyway, or the query has each
name that all solutions have. -/
theorem aliasFindings_eq_nil_iff (h : solutions ≠ []) :
    aliasFindings q solutions = .ok [] ↔
      (extraneousFindings q solutions = .ok [] →
        missingFindings q solutions = .ok [] →
        ∀ name, (∀ s ∈ solutions, name ∈ columnNames s) →
          name ∈ columnNames q) := by
  obtain ⟨extraneous, hextraneous⟩ := extraneousFindings_ok q h
  obtain ⟨missing, hmissing⟩ := missingFindings_ok q h
  have hnames :
      ((commonNames solutions).filter (!(columnNames q).contains ·)) = [] ↔
        ∀ name, (∀ s ∈ solutions, name ∈ columnNames s) →
          name ∈ columnNames q := by
    rw [filter_not_contains_eq_nil_iff]
    exact forall_congr' fun name => by rw [mem_commonNames_iff h]
  rw [aliasFindings, hextraneous, hmissing, Answer.ok_bind, Answer.ok_bind]
  simp only [pure, Except.pure, Except.ok.injEq]
  -- the names are looked at only if the other two checks find nothing
  by_cases hright : extraneous = [] ∧ missing = []
  · obtain ⟨rfl, rfl⟩ := hright
    simpa using hnames
  · constructor
    · intro _ he hm
      exact absurd ⟨he, hm⟩ hright
    · intro _
      rw [if_neg]
      simpa using hright

/-- DISTINCT is not missing when the query is distinct or a solution is not. -/
theorem distinctFindings_eq_nil_iff : distinctFindings q solutions = [] ↔
    ((∀ s ∈ solutions, isDistinct s.main.output) →
      isDistinct q.main.output) := by
  unfold distinctFindings
  rw [ite_eq_right_iff]
  simp only [Bool.and_eq_true, List.all_eq_true, Bool.not_eq_true',
    reduceCtorEq, imp_false, not_and, Bool.not_eq_false]

end Projection

/-! ### Aggregates -/

namespace Aggregate

theorem distinctIn_eq_nil_iff {function : Aggregate} {s : Select} :
    distinctIn function solutions s = [] ↔
      (distinctUses function s ≠ [] → usedIn function solutions) := by
  unfold distinctIn
  split
  · next hused => simp [hused]
  · next hunused => simp [hunused]

/-- An aggregate with DISTINCT is accepted everywhere or nowhere in a query. -/
theorem forall_distinctIn_eq_nil_iff {function : Aggregate} :
    (∀ s ∈ q.selects, distinctIn function solutions s = []) ↔
      (usedIn function [q] → usedIn function solutions) := by
  have hused : usedIn function [q] ↔
      ∃ s ∈ q.selects, distinctUses function s ≠ [] := by
    simp [usedIn]
  rw [hused]
  simp only [distinctIn_eq_nil_iff]
  constructor
  · rintro h ⟨s, hs, huses⟩
    exact h s hs huses
  · intro h s hs huses
    exact h ⟨s, hs, huses⟩

/-- Sums and averages of distinct values are accepted when a solution has them
too. -/
theorem distinctFindings_eq_nil_iff : distinctFindings q solutions = [] ↔
    ∀ function ∈ [Aggregate.sum, .avg], usedIn function [q] →
      usedIn function solutions := by
  simp only [distinctFindings, List.flatMap_eq_nil_iff, List.append_eq_nil_iff,
    List.forall_mem_cons, ← forall_distinctIn_eq_nil_iff]
  constructor
  · intro h
    exact ⟨fun s hs => (h s hs).1, fun s hs => (h s hs).2, by simp⟩
  · rintro ⟨hsum, havg, -⟩ s hs
    exact ⟨hsum s hs, havg s hs⟩

end Aggregate

/-! ### Wildcards -/

namespace Wildcard

/-- Equations with wildcards are accepted when an equation of a solution has the
same ones. -/
theorem equationFindings_eq_nil_iff : equationFindings q solutions = [] ↔
    ∀ c ∈ ['_', '%'], inEquations c q → ∃ s ∈ solutions, inEquations c s := by
  simp only [equationFindings, List.map_eq_nil_iff, List.filter_eq_nil_iff]
  constructor
  · intro h c hc hq
    obtain ⟨n, hn, hnc⟩ := List.any_eq_true.mp hq
    by_contra hnone
    refine h n hn (List.any_eq_true.mpr ⟨c, List.mem_filter.mpr ⟨hc, ?_⟩, hnc⟩)
    simpa using hnone
  · intro h n hn hsuspicious
    obtain ⟨c, hc, hnc⟩ := List.any_eq_true.mp hsuspicious
    obtain ⟨hc, hunused⟩ := List.mem_filter.mp hc
    obtain ⟨s, hs, hsc⟩ := h c hc (List.any_eq_true.mpr ⟨n, hn, hnc⟩)
    rw [List.any_eq_true.mpr ⟨s, hs, hsc⟩] at hunused
    cases hunused

/-- A pattern is not suspicious when each of its characters occurs in a pattern
of a solution. -/
theorem suspicions_eq_zero {pattern : Node} (hs : solutions ≠ [])
    (h : ∀ c, hasChar c pattern → solutions.any (inPatterns c)) :
    suspicions solutions pattern = 0 := by
  have hunused : ∀ c,
      (!solutions.any (inPatterns c) && hasChar c pattern) = false := by
    intro c
    rcases hc : hasChar c pattern with _ | _
    · rw [Bool.and_false]
    · rw [h c hc]
      rfl
  -- a character in the place of another is suspicious only if it is unused
  have hinstead : ∀ c d,
      (solutions.any (inPatterns d) && !solutions.any (inPatterns c) &&
        hasChar c pattern && !hasChar d pattern) = false := by
    intro c d
    rw [Bool.and_assoc (solutions.any (inPatterns d)), hunused c]
    simp
  have hne : solutions.isEmpty = false := by simpa using hs
  simp [suspicions, hne, hunused, hinstead]

theorem patternFindings_eq_nil_of_mem (hs : s ∈ solutions)
    (hq : patterns q = patterns s) :
    patternFindings q solutions = [] := by
  refine List.flatMap_eq_nil_iff.mpr fun p hp => ?_
  have hzero : suspicions solutions p.2 = 0 := by
    refine suspicions_eq_zero (List.ne_nil_of_mem hs) fun c hc => ?_
    rw [hq] at hp
    exact List.any_eq_true.mpr ⟨s, hs, List.any_eq_true.mpr ⟨p, hp, hc⟩⟩
  show List.replicate (suspicions solutions p.2) _ = []
  rw [hzero]
  rfl

end Wildcard

/-! ### A query that reads like a solution -/

/-- **A solution is not blamed.** If a query reads like one of the solutions,
whatever the others are, then nothing is found about its tables, about columns
that no solution has, about DISTINCT, names of columns, sums and averages of
distinct values, and wildcards. -/
theorem solution_not_blamed (hs : s ∈ solutions)
    (hq : q.toReading = s.toReading) {check : Check}
    (hcheck : check ∈ [.joins, .extraneousColumns, .missingDistinct,
      .missingAliases, .distinctSums, .equationWildcards, .patternWildcards]) :
    check.findings q solutions = .ok [] := by
  have hselects : q.selects = s.selects := congrArg Reading.selects hq
  have hmain : q.main = s.main := congrArg Reading.main hq
  have hsources : q.sources = s.sources := congrArg Reading.sources hq
  simp only [List.mem_cons, List.not_mem_nil, or_false] at hcheck
  rcases hcheck with rfl | rfl | rfl | rfl | rfl | rfl | rfl
  · exact Join.findings_of_mem hs
      (by rw [Join.tablesOf, Join.tablesOf, hselects])
  · -- both bounds on the columns are met by the solution that the query reads
    -- like
    refine Projection.extraneousFindings_eq_nil_iff.mpr ⟨⟨s, hs, ?_⟩, ?_⟩
    · apply Nat.le_of_eq
      rw [Projection.width, Projection.width, hmain]
    · rw [hsources]
      exact fun c hc => ⟨s, hs, hc⟩
  · refine congrArg Except.ok
      (Projection.distinctFindings_eq_nil_iff.mpr fun hall => ?_)
    rw [hmain]
    exact hall s hs
  · -- a name is asked for only if all solutions have it, so this one has it too
    refine (Projection.aliasFindings_eq_nil_iff (List.ne_nil_of_mem hs)).mpr
      fun _ _ name hname => ?_
    rw [Projection.columnNames, hmain]
    exact hname s hs
  · -- what the query uses is used in this solution, and one solution is enough
    -- to allow it
    refine congrArg Except.ok
      (Aggregate.distinctFindings_eq_nil_iff.mpr fun function _ hused => ?_)
    have hused' :
        (s.selects.any fun s => !(Aggregate.distinctUses function s).isEmpty) =
          true := by
      simpa [Aggregate.usedIn, hselects] using hused
    exact List.any_eq_true.mpr ⟨s, hs, hused'⟩
  · refine congrArg Except.ok
      (Wildcard.equationFindings_eq_nil_iff.mpr fun c _ hc => ⟨s, hs, ?_⟩)
    rw [Wildcard.inEquations, ← hselects]
    exact hc
  · exact congrArg Except.ok (Wildcard.patternFindings_eq_nil_of_mem hs
      (by rw [Wildcard.patterns, Wildcard.patterns, hselects]))

/-- A literal text. -/
def literalNode (text : String) : Node :=
  .build .literal .none [("this", .value (.text text))]

/-- A tree with the sum of distinct values, an equation with a wildcard, and a
pattern with a false one. -/
def suspiciousTree : Node :=
  .build .select .none [("expressions", .list [
    .node (.build (.aggregate .sum) .none
      [("this", .node (.build .distinct .none []))]),
    .node (.build (.comparison .eq) .none
      [("expression", .node (literalNode "50%"))]),
    .node (.build .like .none [("expression", .node (literalNode "a*"))])])]

/-- A query with one select, from one table to one column. -/
def queryOfTree (tree : Node) (sql : String) : Query :=
  let output : Output := ⟨none, [⟨some "total", false⟩], []⟩
  let block : QueryBlock :=
    ⟨"", some tree, none, [],
      [⟨some "item", some "item", some "public", none, [some "price"]⟩], ⟨[]⟩,
      "public", [], false, false, false, false, output, []⟩
  let select : Select := ⟨block, block, block, [], []⟩
  ⟨⟨[], [select], [], [], ⟨output, [select]⟩,
    [⟨some "public", some "item", some "price"⟩]⟩, sql⟩

/-- A query without any selects. -/
def emptyQuery : Query := ⟨⟨[], [], [], [], ⟨⟨none, [], []⟩, []⟩, []⟩, ""⟩

/-- A query that six of the checks suspect in comparison with one solution alone
is not blamed when it reads like another solution. -/
theorem suspicious_not_blamed :
    (∀ check ∈ [Check.joins, .extraneousColumns, .missingDistinct,
        .distinctSums, .equationWildcards, .patternWildcards],
      ∃ f more, check.findings (queryOfTree suspiciousTree "b") [emptyQuery] =
        .ok (f :: more)) ∧
    ∀ check ∈ [Check.joins, .extraneousColumns, .missingDistinct,
        .missingAliases, .distinctSums, .equationWildcards, .patternWildcards],
      check.findings (queryOfTree suspiciousTree "b")
        [emptyQuery, queryOfTree suspiciousTree "a"] = .ok [] := by
  constructor
  · simp only [List.forall_mem_cons]
    exact ⟨⟨_, _, by with_unfolding_all rfl⟩, ⟨_, _, by with_unfolding_all rfl⟩,
      ⟨_, _, rfl⟩, ⟨_, _, rfl⟩, ⟨_, _, rfl⟩, ⟨_, _, rfl⟩, by simp⟩
  · intro check hcheck
    exact @solution_not_blamed (queryOfTree suspiciousTree "b")
      (queryOfTree suspiciousTree "a") _ (by simp) rfl check hcheck

/-! ### Columns that some solutions have and others have not -/

/-- A datum tells which text it was made from, also if there was none. -/
theorem Datum.text?_injective : Function.Injective Datum.text? := by
  intro a b h
  cases a with
  | none => cases b with
    | none => rfl
    | some b => cases h
  | some a => cases b with
    | none => cases h
    | some b =>
      cases h
      rfl

namespace Projection

/-- The finding about one column. -/
def sourceFinding (category : Category) (c : OutputSource) : Finding :=
  ⟨category, [.text? c.schema, .text? c.table, .text? c.column]⟩

/-- A finding about a column tells which column it is about. -/
theorem sourceFinding_injective (category : Category) :
    Function.Injective (sourceFinding category) := by
  rintro ⟨schema, table, column⟩ ⟨schema', table', column'⟩ h
  simp only [sourceFinding, Finding.mk.injEq, List.cons.injEq, and_true,
    true_and] at h
  rw [Datum.text?_injective h.1, Datum.text?_injective h.2.1,
    Datum.text?_injective h.2.2]

/-- A column is reported as missing when some solution has it and the query has
not. -/
theorem sourceFinding_mem_missingFindings_iff {found : List Finding}
    {c : OutputSource} (h : missingFindings q solutions = .ok found) :
    sourceFinding .missingColumn c ∈ found ↔
      c ∉ q.sources ∧ ∃ s ∈ solutions, c ∈ s.sources := by
  unfold missingFindings at h
  rcases hmin : (solutions.map width).min? with _ | least
  · rw [hmin] at h
    cases h
  · rw [hmin] at h
    cases h
    -- the finding about the number of columns is about no column
    have hwidth : sourceFinding .missingColumn c ∉
        (if width q < least then [widthFinding .missingColumn (width q) least]
          else []) := by
      split
      · simp [sourceFinding, widthFinding]
      · simp
    rw [List.mem_append, or_iff_right hwidth]
    show sourceFinding .missingColumn c ∈
      List.map (sourceFinding .missingColumn) _ ↔ _
    rw [List.mem_map_of_injective (sourceFinding_injective _), List.mem_filter,
      mem_required_iff, and_comm]
    simp

/-- **When a solution is accepted.** Two demands on the check for missing
columns come to the same: that it accepts each query that reads like a solution,
and that it reports only columns that all solutions have. Both are met just when
all solutions take their columns from the same places. -/
theorem missingFindings_accepts_iff (solutions : List Query) :
    ((∀ q s, s ∈ solutions → q.toReading = s.toReading →
      missingFindings q solutions = .ok []) ↔
      ∀ s ∈ solutions, ∀ t ∈ solutions, t.sources ⊆ s.sources) ∧
    ((∀ q found c, missingFindings q solutions = .ok found →
        sourceFinding .missingColumn c ∈ found →
        ∀ s ∈ solutions, c ∈ s.sources) ↔
      ∀ s ∈ solutions, ∀ t ∈ solutions, t.sources ⊆ s.sources) := by
  constructor
  · constructor
    · intro h s hs
      exact (missingFindings_eq_nil_iff.mp (h s s hs rfl)).2
    · intro h q s hs hq
      have hsources : q.sources = s.sources := congrArg Reading.sources hq
      have hmain : q.main = s.main := congrArg Reading.main hq
      refine missingFindings_eq_nil_iff.mpr ⟨⟨s, hs, ?_⟩, ?_⟩
      · apply Nat.le_of_eq
        rw [width, width, hmain]
      · rw [hsources]
        exact h s hs
  · constructor
    · -- a query without columns lacks whatever some solution has
      intro h s hs t ht c hc
      obtain ⟨found, hfound⟩ :=
        missingFindings_ok emptyQuery (List.ne_nil_of_mem hs)
      have hmissing : sourceFinding .missingColumn c ∈ found :=
        (sourceFinding_mem_missingFindings_iff hfound).mpr
          ⟨List.not_mem_nil, t, ht, hc⟩
      exact h emptyQuery found c hfound hmissing s hs
    · intro h q found c hfound hc s hs
      obtain ⟨-, t, ht, hct⟩ :=
        (sourceFinding_mem_missingFindings_iff hfound).mp hc
      exact h s hs t ht hct

/-- A query that returns one column, from a place. -/
def queryFrom (c : OutputSource) : Query :=
  ⟨⟨[], [], [], [], ⟨⟨none, [⟨c.column, false⟩], []⟩, []⟩, [c]⟩, ""⟩

/-- The key of an order. -/
def orderKey : OutputSource :=
  ⟨some "public", some "orders", some "customer_id"⟩

/-- The key of a customer, with the same values. -/
def customerKey : OutputSource :=
  ⟨some "public", some "customers", some "customer_id"⟩

/-- Of two solutions that take a key from different tables, the first is said to
lack the key of the second, though not every solution has that. -/
theorem missingFindings_of_alternative :
    queryFrom orderKey ∈ [queryFrom orderKey, queryFrom customerKey] ∧
      missingFindings (queryFrom orderKey)
        [queryFrom orderKey, queryFrom customerKey] =
        .ok [sourceFinding .missingColumn customerKey] ∧
      customerKey ∉ (queryFrom orderKey).sources := by
  exact ⟨List.mem_cons_self, by with_unfolding_all rfl, by decide⟩

end Projection

end SqlDiagnosis
