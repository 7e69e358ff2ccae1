import SqlDiagnosis.Finding
import SqlDiagnosis.Node.Render
import SqlDiagnosis.Node.Search

/-!
# Conditions

A comparison with null is never true. A condition in disjunctive form is
inconsistent when it cannot be true and tautological when it cannot be false;
one of its disjuncts is redundant when it is never true alone, and a part of a
disjunct is redundant when it is never the only reason for the condition to be
false.

A condition that cannot be converted to formulas is left out. Its parts have to
be convertible if it is, except that numbers among them are passed over. The
conversion is a parameter of the check.
-/

namespace SqlDiagnosis.Condition

/-! ### Comparisons with null -/

/-- Whether a side of a comparison is null. -/
def isNull (comparison : Node) (side : String) : Bool :=
  (comparison.child? side).any (·.kind == .null)

/-- The findings about comparisons with null. -/
def nullFindings (q : Query) : List Finding :=
  q.selects.flatMap fun s =>
    let comparisons :=
      s.strippedToOne.ast.toList.flatMap (·.findAll (·.isComparison))
    (comparisons.filter fun n =>
      isNull n "this" || isNull n "expression").map fun n =>
        ⟨.comparisonWithNull, [.text n.render]⟩

/-! ### Redundancy -/

/-- Whether a disjunct is never true alone. -/
def isRedundantDisjunct (f : Formula) (others : List Formula) : Bool :=
  !(Formula.and f (.not (.any others))).satisfiable

/-- Whether a part of a disjunct is never the only one to be false while the
other disjuncts are. -/
def isRedundantPart (part : Formula) (rest others : List Formula) : Bool :=
  !(Formula.and (.not part) (.and (.all rest) (.not (.any others)))).satisfiable

/-- A finding about a condition. -/
def finding (what : String) (data : List Datum) : Finding :=
  ⟨.redundantCondition, .text what :: data⟩

/-- The finding about a condition as a whole. -/
def wholeFindings (fs : List Formula) : List Finding :=
  let whole := Formula.any fs
  if !whole.satisfiable then [finding "contradiction" []]
  else if !(Formula.not whole).satisfiable then [finding "tautology" []]
  else []

/-- The texts and formulas of the parts of a disjunct, without numbers. -/
def parts (convert : Conversion) (columns : List String) (d : Disjunct) :
    Except Fault (List (String × Formula)) := do
  let converted ← d.parts.mapM fun p =>
    return (← convert columns p.term).map fun f => (p.sql, f)
  return converted.filterMap id

/-- The findings about a disjunct and its parts. -/
def disjunctFindings (convert : Conversion) (columns : List String)
    (d : Disjunct) (f : Formula) (others : List Formula) :
    Except Fault (List Finding) := do
  let parts ← parts convert columns d
  let redundant := parts.zipIdx.filter fun ((_, part), i) =>
    isRedundantPart part ((parts.map (·.2)).eraseIdx i) others
  return (if isRedundantDisjunct f others then
      [finding "redundant_disjunct" [.text d.sql]] else []) ++
    redundant.map fun ((sql, _), _) =>
      finding "redundant_conjunct" [.tuple [.text d.sql, .text sql]]

/-- The findings about a condition over some columns. -/
def conditionFindings (convert : Conversion) (columns : List String)
    (condition : List Disjunct) : Except Fault (List Finding) :=
  match condition.mapM fun d => convert.formula columns d.term with
  | .error _ => .ok []
  | .ok fs => do
    let found ← (condition.zip fs).zipIdx.mapM fun ((d, f), i) =>
      disjunctFindings convert columns d f (fs.eraseIdx i)
    return wholeFindings fs ++ found.flatten

/-- The findings about redundant conditions. -/
def redundancyFindings (convert : Conversion) (q : Query) :
    Except Fault (List Finding) := do
  let found ← (q.selects.filter (!·.condition.isEmpty)).mapM fun s =>
    conditionFindings convert (s.columnNames.filterMap id) s.condition
  return found.flatten

end SqlDiagnosis.Condition
