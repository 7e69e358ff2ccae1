import Mathlib.Data.List.Flatten
import SqlDiagnosis.Proofs.Acceptance

/-!
# What solutions excuse

Two checks suspect what a query does unless a solution does it as well: sums and
averages of distinct values, and wildcards in equations. All that they ask about
the solutions is whether there is one that does this or that. A longer list of
solutions can only answer yes more often, so it strikes out findings and never
adds one,

    fewer ⊆ more  →  the findings with `more` are a subsequence
                       of the findings with `fewer`.

Wildcards are judged equation by equation. An equation *misuses* a wildcard when
the wildcard stands in one of its literal sides and in no literal side of an
equation of a solution. Such an equation has one finding, even if both its sides
or both wildcards are to blame, and any other has none.
-/

namespace SqlDiagnosis

variable {fewer more solutions : List Query}

/-- What some solution does, some solution of a longer list does. -/
theorem any_of_subset (h : fewer ⊆ more) {p : Query → Bool} (hp : fewer.any p) :
    more.any p := by
  obtain ⟨s, hs, hps⟩ := List.any_eq_true.mp hp
  exact List.any_eq_true.mpr ⟨s, h hs, hps⟩

/-! ### Sums and averages of distinct values -/

namespace Aggregate

/-- For an aggregate in one select the longer list either excuses everything or
makes no difference. -/
theorem distinctIn_sublist (h : fewer ⊆ more) (function : Aggregate)
    (s : Select) :
    (distinctIn function more s).Sublist (distinctIn function fewer s) := by
  by_cases hmore : usedIn function more
  · rw [distinctIn, if_pos hmore]
    exact List.nil_sublist _
  · have hfewer : ¬ usedIn function fewer :=
      fun hused => hmore (any_of_subset h hused)
    have hsame : distinctIn function more s = distinctIn function fewer s := by
      rw [distinctIn, distinctIn, if_neg hmore, if_neg hfewer]
    exact hsame ▸ List.Sublist.refl _

theorem distinctFindings_sublist (h : fewer ⊆ more) (q : Query) :
    (distinctFindings q more).Sublist (distinctFindings q fewer) := by
  apply List.Sublist.flatMap_right
  intro s _
  exact (distinctIn_sublist h .sum s).append (distinctIn_sublist h .avg s)

end Aggregate

/-! ### Wildcards in equations -/

namespace Wildcard

variable {c : Char} {e : Node} {q : Query}

/-- One of the sides of an equation is a literal with this text. -/
def HasSide (e : Node) (text : String) : Prop :=
  ∃ side ∈ ["this", "expression"], ∃ literal, e.child? side = some literal ∧
    literal.kind = .literal ∧ literal.arg "this" = .value (.text text)

/-- A character stands in a literal side of an equation. -/
def HasCharacter (e : Node) (c : Char) : Prop :=
  ∃ text, HasSide e text ∧ c ∈ text.toList

/-- A character stands in a literal side of an equation of a query. -/
def Equates (q : Query) (c : Char) : Prop :=
  ∃ s ∈ q.selects, ∃ e ∈ nodesOf (.comparison .eq) s, HasCharacter e c

/-- An equation has a wildcard that no equation of a solution has. -/
def MisusesWildcard (solutions : List Query) (e : Node) : Prop :=
  ∃ c ∈ ['_', '%'], HasCharacter e c ∧ ∀ s ∈ solutions, ¬ Equates s c

theorem literal?_eq_some_iff {side : String} {literal : Node} :
    literal? e side = some literal ↔
      e.child? side = some literal ∧ literal.kind = .literal := by
  rw [literal?, Option.filter_eq_some_iff, beq_iff_eq]

theorem hasChar_iff {literal : Node} :
    hasChar c literal ↔
      ∃ text, literal.arg "this" = .value (.text text) ∧ c ∈ text.toList := by
  unfold hasChar
  split
  · next text htext => simp [htext]
  · next hother =>
    refine iff_of_false Bool.false_ne_true ?_
    rintro ⟨text, htext, -⟩
    exact hother text htext

/-- What the check asks about an equation is whether a literal side has the
character. -/
theorem inEquation_iff : inEquation c e ↔ HasCharacter e c := by
  rw [inEquation, List.any_eq_true]
  constructor
  · rintro ⟨literal, hliteral, hc⟩
    obtain ⟨side, hside, hliteral⟩ := List.mem_filterMap.mp hliteral
    obtain ⟨hchild, hkind⟩ := literal?_eq_some_iff.mp hliteral
    obtain ⟨text, htext, hc⟩ := hasChar_iff.mp hc
    exact ⟨text, ⟨side, hside, literal, hchild, hkind, htext⟩, hc⟩
  · rintro ⟨text, ⟨side, hside, literal, hchild, hkind, htext⟩, hc⟩
    refine ⟨literal, List.mem_filterMap.mpr ⟨side, hside, ?_⟩,
      hasChar_iff.mpr ⟨text, htext, hc⟩⟩
    exact literal?_eq_some_iff.mpr ⟨hchild, hkind⟩

theorem inEquations_iff : inEquations c q ↔ Equates q c := by
  rw [inEquations, List.any_eq_true]
  constructor
  · rintro ⟨e, he, hc⟩
    obtain ⟨s, hs, he⟩ := List.mem_flatMap.mp he
    exact ⟨s, hs, e, he, inEquation_iff.mp hc⟩
  · rintro ⟨s, hs, e, he, hc⟩
    exact ⟨e, List.mem_flatMap.mpr ⟨s, hs, he⟩, inEquation_iff.mpr hc⟩

/-- The wildcards that no equation of a solution has. -/
def suspicious (solutions : List Query) : List Char :=
  ['_', '%'].filter fun c => !solutions.any (inEquations c)

/-- A wildcard is suspicious if no equation of a solution has it. -/
theorem mem_suspicious_iff :
    c ∈ suspicious solutions ↔
      c ∈ ['_', '%'] ∧ ∀ s ∈ solutions, ¬ Equates s c := by
  simp only [suspicious, List.mem_filter, ← inEquations_iff, Bool.not_eq_true',
    List.any_eq_false]

/-- With more solutions, fewer wildcards are suspicious. -/
theorem suspicious_subset (h : fewer ⊆ more) :
    suspicious more ⊆ suspicious fewer := by
  intro c hc
  obtain ⟨hwildcard, hunused⟩ := mem_suspicious_iff.mp hc
  exact mem_suspicious_iff.mpr ⟨hwildcard, fun s hs => hunused s (h hs)⟩

theorem misusesWildcard_iff :
    (suspicious solutions).any (inEquation · e) = true ↔
      MisusesWildcard solutions e := by
  rw [List.any_eq_true]
  refine exists_congr fun c => ?_
  rw [mem_suspicious_iff, inEquation_iff, and_assoc,
    and_comm (b := HasCharacter e c)]

instance (solutions : List Query) (e : Node) :
    Decidable (MisusesWildcard solutions e) :=
  decidable_of_iff _ misusesWildcard_iff

/-- The finding about an equation with a wildcard. -/
def misuse (e : Node) : Finding := ⟨.wildcardWithoutLike, [.text e.render]⟩

/-- With more solutions, fewer equations are reported. -/
theorem equationFindings_sublist (h : fewer ⊆ more) (q : Query) :
    (equationFindings q more).Sublist (equationFindings q fewer) := by
  apply List.Sublist.map
  apply List.monotone_filter_right
  intro e hmisused
  obtain ⟨c, hc, hin⟩ := List.any_eq_true.mp hmisused
  exact List.any_eq_true.mpr ⟨c, suspicious_subset h hc, hin⟩

/-- Each equation is judged by itself. -/
theorem equationFindings_eq (q : Query) (solutions : List Query) :
    equationFindings q solutions =
      q.selects.flatMap fun s => (nodesOf (.comparison .eq) s).flatMap fun e =>
        if MisusesWildcard solutions e then [misuse e] else [] := by
  rw [← List.flatMap_assoc]
  show ((q.selects.flatMap _).filter fun e =>
    (suspicious solutions).any (inEquation · e)).map misuse = _
  -- the filter goes along the equations of all selects, as a single list
  induction q.selects.flatMap (nodesOf (.comparison .eq)) with
  | nil => rfl
  | cons e equations ih =>
    rw [List.filter_cons, List.flatMap_cons, ← ih]
    by_cases hmisused : MisusesWildcard solutions e
    · rw [if_pos (misusesWildcard_iff.mpr hmisused), if_pos hmisused]
      rfl
    · rw [if_neg fun hany => hmisused (misusesWildcard_iff.mp hany),
        if_neg hmisused]
      rfl

end Wildcard

/-! ### Both checks -/

open Wildcard

/-- **More solutions only excuse.** If all solutions of one list are in another,
then the findings about sums and averages of distinct values with the second
list are a subsequence of those with the first, and so are the findings about
wildcards in equations. With any list, the latter are one for each equation that
misuses a wildcard, in the order in which the selects are searched. -/
theorem more_solutions_excuse (q : Query) {fewer more : List Query}
    (h : fewer ⊆ more) :
    (Aggregate.distinctFindings q more).Sublist
      (Aggregate.distinctFindings q fewer) ∧
    (equationFindings q more).Sublist (equationFindings q fewer) ∧
    ∀ solutions, equationFindings q solutions =
      q.selects.flatMap fun s => (nodesOf (.comparison .eq) s).flatMap fun e =>
        if MisusesWildcard solutions e then [misuse e] else [] :=
  ⟨Aggregate.distinctFindings_sublist h q, equationFindings_sublist h q,
    equationFindings_eq q⟩

/-- An equation with a literal on its right side. -/
def equationTo (text : String) : Node :=
  .build (.comparison .eq)
    { NodeFacts.none with sql := "code = '" ++ text ++ "'" }
    [("expression", .node (literalNode text))]

/-- An aggregate of distinct values, with its text. -/
def distinctOf (function : Aggregate) (text : String) : Node :=
  .build (.aggregate function) { NodeFacts.none with sql := text }
    [("this", .node (.build .distinct .none []))]

/-- A query that selects some expressions. -/
def queryOfNodes (nodes : List Node) : Query :=
  queryOfTree (.build .select .none [("expressions", .list (nodes.map .node))]) ""

/-- A query with the sum and the average of distinct values, and with three
equations. -/
def codesQuery : Query :=
  queryOfNodes [distinctOf .sum "SUM(DISTINCT n)",
    distinctOf .avg "AVG(DISTINCT n)", equationTo "a_b", equationTo "5%",
    equationTo "%_"]

/-- A solution that has an equation with a percent sign. -/
def percentQuery : Query := queryOfNodes [equationTo "9%"]

/-- A solution that has the average of distinct values. -/
def averageQuery : Query := queryOfNodes [distinctOf .avg "AVG(DISTINCT m)"]

/-- The percent sign of the first solution excuses one of the three equations,
and both aggregates are suspected. The second solution excuses the average. -/
theorem average_excused :
    [percentQuery] ⊆ [averageQuery, percentQuery] ∧
    (Aggregate.distinctFindings codesQuery [averageQuery, percentQuery]).Sublist
      [⟨.distinctInSumOrAvg, [.text "SUM(DISTINCT n)"]⟩,
        ⟨.distinctInSumOrAvg, [.text "AVG(DISTINCT n)"]⟩] ∧
    (Aggregate.distinctFindings codesQuery
      [averageQuery, percentQuery]).length = 1 ∧
    equationFindings codesQuery [percentQuery] =
      [misuse (equationTo "a_b"), misuse (equationTo "%_")] := by
  have h : [percentQuery] ⊆ [averageQuery, percentQuery] :=
    List.subset_cons_self _ _
  obtain ⟨haggregates, -, hequations⟩ := more_solutions_excuse codesQuery h
  exact ⟨h, haggregates, rfl, (hequations _).trans rfl⟩

end SqlDiagnosis
