import SqlDiagnosis.Check.Aggregate
import SqlDiagnosis.Check.Bracket
import SqlDiagnosis.Check.Clause
import SqlDiagnosis.Check.Condition
import SqlDiagnosis.Check.Grouping
import SqlDiagnosis.Check.Join
import SqlDiagnosis.Check.Operator
import SqlDiagnosis.Check.Projection
import SqlDiagnosis.Check.Semicolon
import SqlDiagnosis.Check.Spelling
import SqlDiagnosis.Check.Subquery
import SqlDiagnosis.Check.Typing
import SqlDiagnosis.Check.Wildcard

/-!
# Checks and detectors

A check looks at a query, and some at the solutions as well, and gives findings
or fails. A detector has a list of checks. Three detectors run their checks one
after the other; the syntactic one also corrects the query on the way, so its
checks are divided: those on names that are not defined come before any
correction, three steps correct, and the other checks look at the corrected
query.
-/

namespace SqlDiagnosis

/-! ### Corrections -/

/-- A step that proposes corrections. -/
inductive CorrectionStep where
  | operators
  | tables
  | columns
deriving DecidableEq, Repr

namespace CorrectionStep

/-- The corrections that a step proposes. -/
def corrections (step : CorrectionStep) (q : Query) :
    Except Fault (List Correction) :=
  match step with
  | operators => .ok (Operator.corrections q)
  | tables => Spelling.tableCorrections q
  | columns => Spelling.columnCorrections q

/-- The category in which a step reports. -/
def category : CorrectionStep → Category
  | operators => .nonstandardOperator
  | tables | columns => .misspelling

/-- The name under which a step is logged when it changes the query. -/
def label : CorrectionStep → String
  | operators => "syn_37_nonstandard_operators"
  | tables => "syn_9_misspellings_schemas_tables"
  | columns => "syn_9_misspellings_columns"

/-- The findings of a step. -/
def findings (step : CorrectionStep) (q : Query) :
    Except Fault (List Finding) :=
  return (← step.corrections q).map (·.finding step.category)

/-- The steps in their order: names are compared when the operators are right,
and columns when the tables are. -/
def order : List CorrectionStep := [operators, tables, columns]

end CorrectionStep

/-! ### Checks -/

/-- The checks. `unchecked` is one for a category of the taxonomy that has no
rule: it finds nothing. -/
inductive Check where
  | semicolons
  | undefinedColumns
  | undefinedFunctions
  | undefinedParameters
  | undefinedTables
  | correction (step : CorrectionStep)
  | types
  | aggregatePlaces
  | nestedAggregates
  | groupingColumns
  | havingWithoutGroupBy
  | repeatedWhere
  | missingFrom
  | nullComparisons
  | repeatedClauses
  | subqueryColumns
  | clauseOrder
  | brackets
  | isTests
  | redundantConditions
  | distinctSums
  | equationWildcards
  | patternWildcards
  | joins
  | extraneousColumns
  | missingColumns
  | missingDistinct
  | missingAliases
  | needlessDistinct
  | plainPatterns
  | needlessAggregateDistinct
  | singletonGroups
  | groupByAsDistinct
  | orderedSubqueries
  | unchecked
deriving DecidableEq, Repr

/-- The findings of a check. -/
def Check.findings (check : Check) (q : Query) (solutions : List Query) :
    Except Fault (List Finding) :=
  match check with
  | semicolons => .ok (Semicolon.findings q)
  | undefinedColumns => .ok (Reference.columnFindings q)
  | undefinedFunctions => .ok (Reference.functionFindings q)
  | undefinedParameters => .ok (Reference.parameterFindings q)
  | undefinedTables => .ok (Reference.tableFindings q)
  | correction step => step.findings q
  | types => .ok (Typing.mismatchFindings q)
  | aggregatePlaces => .ok (Aggregate.placeFindings q)
  | nestedAggregates => Aggregate.nestingFindings q
  | groupingColumns => Grouping.columnFindings q
  | havingWithoutGroupBy => .ok (Grouping.havingFindings q)
  | repeatedWhere => .ok (Clause.whereFindings q)
  | missingFrom => .ok (Clause.fromFindings q)
  | nullComparisons => .ok (Condition.nullFindings q)
  | repeatedClauses => .ok (Clause.repetitionFindings q)
  | subqueryColumns => .ok (Subquery.columnFindings q)
  | clauseOrder => .ok (Clause.orderFindings q)
  | brackets => .ok (Bracket.findings q)
  | isTests => Typing.isTestFindings q
  | redundantConditions => Condition.redundancyFindings Term.formula? q
  | distinctSums => .ok (Aggregate.distinctFindings q solutions)
  | equationWildcards => .ok (Wildcard.equationFindings q solutions)
  | patternWildcards => .ok (Wildcard.patternFindings q solutions)
  | joins => Join.findings q solutions
  | extraneousColumns => Projection.extraneousFindings q solutions
  | missingColumns => Projection.missingFindings q solutions
  | missingDistinct => .ok (Projection.distinctFindings q solutions)
  | missingAliases => Projection.aliasFindings q solutions
  | needlessDistinct => .ok (Projection.needlessDistinctFindings q)
  | plainPatterns => Wildcard.plainPatternFindings q
  | needlessAggregateDistinct => Aggregate.needlessFindings q
  | singletonGroups => .ok (Grouping.singletonFindings q)
  | groupByAsDistinct => Grouping.distinctFindings q
  | orderedSubqueries => .ok (Subquery.orderFindings q)
  | unchecked => .ok []

/-- The findings of several checks, one after the other. -/
def Check.allFindings (checks : List Check) (q : Query)
    (solutions : List Query) : Except Fault (List Finding) :=
  return (← checks.mapM (·.findings q solutions)).flatten

/-! ### Detectors -/

/-- Kinds of detectors. `base` is what they have in common: it has no checks and
cannot be attached. -/
inductive DetectorKind where
  | syntactic
  | semantic
  | logical
  | complication
  | base
deriving DecidableEq, Repr

namespace DetectorKind

/-- The name of a kind in logs and reports. -/
def label : DetectorKind → String
  | syntactic => "SyntaxErrorDetector"
  | semantic => "SemanticErrorDetector"
  | logical => "LogicalErrorDetector"
  | complication => "ComplicationDetector"
  | base => "BaseDetector"

/-- The kinds that are attached if nothing else is asked for. -/
def standard : List DetectorKind := [syntactic, semantic, logical, complication]

/-- The checks on names that are not defined, which come before any
correction. -/
def definitionChecks : List Check :=
  [.undefinedColumns, .undefinedFunctions, .undefinedParameters,
    .undefinedTables]

/-- The checks of a kind on the query as it stands. -/
def checks : DetectorKind → List Check
  | syntactic =>
    [.types, .aggregatePlaces, .nestedAggregates, .groupingColumns,
      .havingWithoutGroupBy, .repeatedWhere, .missingFrom, .nullComparisons,
      .repeatedClauses, .subqueryColumns, .clauseOrder, .brackets, .isTests]
  | semantic =>
    [.redundantConditions, .distinctSums, .equationWildcards, .patternWildcards]
  | logical =>
    [.joins, .extraneousColumns, .missingColumns, .missingDistinct,
      .missingAliases]
  | complication =>
    [.needlessDistinct, .plainPatterns, .needlessAggregateDistinct,
      .singletonGroups, .groupByAsDistinct, .orderedSubqueries]
  | base => []

/-- Whether a kind has nothing to say without solutions. -/
def needsSolutions : DetectorKind → Bool
  | logical => true
  | _ => false

/-- The findings of the checks of a kind. -/
def inspect (kind : DetectorKind) (q : Query) (solutions : List Query) :
    Except Fault (List Finding) :=
  if kind.needsSolutions && solutions.isEmpty then .ok []
  else Check.allFindings kind.checks q solutions

end DetectorKind

end SqlDiagnosis
