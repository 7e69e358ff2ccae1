import SqlDiagnosis.Query
import SqlDiagnosis.Value.Display

/-!
# Findings

A finding is a category of the taxonomy together with data that say what was
found and where. The data are a tuple of values, tuples, sets and constraints.

For a report, a finding becomes an entry, which has the label and the number of
its category. Entries have a one-line text and a summary, can be compared, and
can be members of a set unless their data hold a list, a record or a set. What
constraints among the data contribute to this is a parameter
(`ConstraintRules`).
-/

namespace SqlDiagnosis

/-! ### Categories -/

/-- The categories that are reported. -/
inductive Category where
  | ambiguousColumn
  | undefinedColumn
  | undefinedFunction
  | undefinedParameter
  | undefinedObject
  | invalidSchemaName
  | misspelling
  | dataTypeMismatch
  | aggregateOutsideSelect
  | nestedAggregate
  | groupingColumn
  | havingWithoutGroupBy
  | whereTwice
  | missingFrom
  | comparisonWithNull
  | missingSemicolon
  | duplicateClause
  | subqueryColumns
  | keywordOrder
  | brackets
  | isNotApplicable
  | nonstandardOperator
  | additionalSemicolon
  | redundantCondition
  | distinctInSumOrAvg
  | wildcardWithoutLike
  | incorrectWildcard
  | incorrectJoin
  | extraneousJoin
  | missingJoin
  | extraneousColumn
  | missingColumn
  | missingDistinct
  | missingAlias
  | unnecessaryDistinct
  | likeWithoutWildcard
  | distinctInAggregate
  | singletonGroups
  | groupByAsDistinct
  | orderByInSubquery
deriving DecidableEq, Repr

/-- The number of a category in the taxonomy. -/
def Category.number : Category → Nat
  | ambiguousColumn => 2
  | undefinedColumn => 4
  | undefinedFunction => 5
  | undefinedParameter => 6
  | undefinedObject => 7
  | invalidSchemaName => 8
  | misspelling => 9
  | dataTypeMismatch => 13
  | aggregateOutsideSelect => 14
  | nestedAggregate => 15
  | groupingColumn => 16
  | havingWithoutGroupBy => 17
  | whereTwice => 19
  | missingFrom => 20
  | comparisonWithNull => 21
  | missingSemicolon => 22
  | duplicateClause => 24
  | subqueryColumns => 26
  | keywordOrder => 30
  | brackets => 34
  | isNotApplicable => 35
  | nonstandardOperator => 37
  | additionalSemicolon => 38
  | redundantCondition => 40
  | distinctInSumOrAvg => 41
  | wildcardWithoutLike => 43
  | incorrectWildcard => 44
  | incorrectJoin => 58
  | extraneousJoin => 59
  | missingJoin => 62
  | extraneousColumn => 70
  | missingColumn => 71
  | missingDistinct => 72
  | missingAlias => 73
  | unnecessaryDistinct => 83
  | likeWithoutWildcard => 88
  | distinctInAggregate => 92
  | singletonGroups => 95
  | groupByAsDistinct => 97
  | orderByInSubquery => 100

/-- The title of a category. -/
def Category.title : Category → String
  | ambiguousColumn => "AMBIGUOUS_COLUMN"
  | undefinedColumn => "UNDEFINED_COLUMN"
  | undefinedFunction => "UNDEFINED_FUNCTION"
  | undefinedParameter => "UNDEFINED_PARAMETER"
  | undefinedObject => "UNDEFINED_OBJECT"
  | invalidSchemaName => "INVALID_SCHEMA_NAME"
  | misspelling => "MISSPELLINGS"
  | dataTypeMismatch => "DATA_TYPE_MISMATCH"
  | aggregateOutsideSelect =>
    "USING_AGGREGATE_FUNCTION_OUTSIDE_SELECT_OR_HAVING"
  | nestedAggregate => "AGGREGATE_FUNCTIONS_CANNOT_BE_NESTED"
  | groupingColumn => "EXTRANEOUS_OR_OMITTED_GROUPING_COLUMN"
  | havingWithoutGroupBy => "HAVING_WITHOUT_GROUP_BY"
  | whereTwice => "USING_WHERE_TWICE"
  | missingFrom => "OMITTING_THE_FROM_CLAUSE"
  | comparisonWithNull => "COMPARISON_WITH_NULL"
  | missingSemicolon => "OMITTING_THE_SEMICOLON"
  | duplicateClause => "DUPLICATE_CLAUSE"
  | subqueryColumns => "TOO_MANY_COLUMNS_IN_SUBQUERY"
  | keywordOrder => "CONFUSING_THE_ORDER_OF_KEYWORDS"
  | brackets => "CURLY_SQUARE_OR_UNMATCHED_BRACKETS"
  | isNotApplicable => "IS_WHERE_NOT_APPLICABLE"
  | nonstandardOperator => "NONSTANDARD_OPERATORS"
  | additionalSemicolon => "ADDITIONAL_SEMICOLON"
  | redundantCondition => "TAUTOLOGICAL_OR_INCONSISTENT_EXPRESSION"
  | distinctInSumOrAvg => "DISTINCT_IN_SUM_OR_AVG"
  | wildcardWithoutLike => "WILDCARDS_WITHOUT_LIKE"
  | incorrectWildcard => "INCORRECT_WILDCARD"
  | incorrectJoin => "JOIN_ON_INCORRECT_TABLE"
  | extraneousJoin => "JOIN_WHEN_JOIN_NEEDS_TO_BE_OMITTED"
  | missingJoin => "MISSING_JOIN"
  | extraneousColumn => "EXTRANEOUS_COLUMN_IN_SELECT"
  | missingColumn => "MISSING_COLUMN_FROM_SELECT"
  | missingDistinct => "MISSING_DISTINCT_FROM_SELECT"
  | missingAlias => "MISSING_AS_FROM_SELECT"
  | unnecessaryDistinct => "UNNECESSARY_DISTINCT_IN_SELECT_CLAUSE"
  | likeWithoutWildcard => "LIKE_WITHOUT_WILDCARDS"
  | distinctInAggregate => "UNNECESSARY_DISTINCT_IN_AGGREGATE_FUNCTION"
  | singletonGroups => "GROUP_BY_WITH_SINGLETON_GROUPS"
  | groupByAsDistinct => "GROUP_BY_CAN_BE_REPLACED_WITH_DISTINCT"
  | orderByInSubquery => "ORDER_BY_IN_SUBQUERY"

/-- The group of a category, which its number decides. -/
def Category.group (c : Category) : String :=
  if c.number < 39 then "SYN" else if c.number < 52 then "SEM"
  else if c.number < 82 then "LOG" else "COM"

/-- The label of a category: group, number and title. -/
def Category.label (c : Category) : String :=
  c.group ++ "_" ++ toString c.number ++ "_" ++ c.title

/-! ### Constraints as data -/

/-- How constraints behave as data: which of them are the same, and whether they
can be members of a set. They are made elsewhere, and these rules with them, so
that nothing is laid down here; what is needed of the rules is assumed where it
is needed. -/
structure ConstraintRules where
  same : Constraint → Constraint → Bool
  hashable : Constraint → Except Fault Unit

/-- Constraints on the same columns are the same, of whatever kinds, and all can
be members of a set. -/
def ConstraintRules.byColumns : ConstraintRules :=
  ⟨fun c d => c.isOn d.columns, fun _ => .ok ()⟩

/-! ### Data -/

/-- A piece of data of a finding. -/
inductive Datum where
  | value (v : Value)
  | tuple (items : List Datum)
  | set (items : List Datum)
  | constraint (c : Constraint)

namespace Datum

/-- A text. -/
def text (s : String) : Datum := value (.text s)

/-- A text or null. -/
def text? : Option String → Datum
  | some s => text s
  | none => value .null

/-- An integer. -/
def int (n : Int) : Datum := value (.int n)

/-- An integer or null. -/
def int? : Option Int → Datum
  | some n => int n
  | none => value .null

/-- Written items as a tuple: one item alone has a comma after it. -/
def tupleText : List String → String
  | [item] => "(" ++ item ++ ",)"
  | items => "(" ++ Value.joined ", " items ++ ")"

/-- Written items as a set. -/
def setText : List String → String
  | [] => "set()"
  | items => "\x7b" ++ Value.joined ", " items ++ "\x7d"

mutual

/-- A piece of data as it is written; a constraint shows its label. -/
def written : Datum → String
  | value v => v.written
  | tuple items => tupleText (writtenItems items)
  | set items => setText (writtenItems items)
  | constraint c => c.kind.label

/-- Several pieces of data, each as it is written. -/
def writtenItems : List Datum → List String
  | [] => []
  | d :: rest => written d :: writtenItems rest

end

mutual

/-- Whether a piece of data can be a member of a set. -/
def hashable (rules : ConstraintRules) : Datum → Except Fault Unit
  | value v => v.hashable
  | tuple items => hashableItems rules items
  | set _ => .error (.notHashable "set")
  | constraint c => rules.hashable c

/-- Whether all pieces of data can be members of a set; the first that cannot is
reported. -/
def hashableItems (rules : ConstraintRules) : List Datum → Except Fault Unit
  | [] => .ok ()
  | d :: rest => do hashable rules d; hashableItems rules rest

end

mutual

/-- Whether two pieces of data are the same. -/
def same (rules : ConstraintRules) : Datum → Datum → Bool
  | value v, value w => v.same w
  | tuple xs, tuple ys => sameItems rules xs ys
  | set xs, set ys => xs.length == ys.length && withinSet rules xs ys
  | constraint c, constraint d => rules.same c d
  | _, _ => false

/-- Whether two tuples have the same data at the same places. -/
def sameItems (rules : ConstraintRules) : List Datum → List Datum → Bool
  | [], [] => true
  | x :: xs, y :: ys => same rules x y && sameItems rules xs ys
  | _, _ => false

/-- Whether every member of one set is the same as some member of another. -/
def withinSet (rules : ConstraintRules) : List Datum → List Datum → Bool
  | [], _ => true
  | x :: xs, ys => ys.any (same rules x) && withinSet rules xs ys

end

end Datum

/-! ### Findings and entries -/

/-- A finding: its category and its data. -/
structure Finding where
  category : Category
  data : List Datum

/-- A finding as a report shows it. -/
structure Entry where
  label : String
  number : Value
  data : List Datum

/-- The entry of a finding. -/
def Finding.entry (f : Finding) : Entry :=
  ⟨f.category.label, .int f.category.number, f.data⟩

namespace Entry

/-- The data of an entry as a tuple. -/
def dataText (e : Entry) : String := Datum.tupleText (Datum.writtenItems e.data)

/-- The summary of an entry. -/
def summary (e : Entry) : String :=
  "DetectedError(" ++ e.number.display ++ " - " ++ e.label ++ ": " ++
    e.dataText ++ ")"

/-- The line of an entry in a report: its number in three places, its label, and
its data if there are any. -/
def line (e : Entry) : Except Fault String := do
  let head := "[" ++ (← e.number.padded 3) ++ "] " ++ e.label
  return if e.data.isEmpty then head else head ++ ": " ++ e.dataText

/-- Whether an entry can be a member of a set, under some rules for
constraints. -/
def hashableUnder (rules : ConstraintRules) (e : Entry) : Except Fault Unit :=
  Datum.hashableItems rules e.data

/-- Whether an entry can be a member of a set, where constraints go by their
columns. -/
def hashable (e : Entry) : Except Fault Unit := e.hashableUnder .byColumns

/-- Whether two entries are the same, under some rules for constraints: equal
labels, the same numbers and the same data. -/
def sameUnder (rules : ConstraintRules) (e f : Entry) : Bool :=
  e.label == f.label && e.number.same f.number &&
    Datum.sameItems rules e.data f.data

/-- Whether two entries are the same, where constraints go by their columns. -/
def same (e f : Entry) : Bool := e.sameUnder .byColumns f

end Entry

/-- The line of a finding in a report. -/
def Finding.line (f : Finding) : String :=
  let head := "[" ++ Value.padLeft 3 (toString f.category.number) ++ "] " ++
    f.category.label
  if f.data.isEmpty then head else head ++ ": " ++ f.entry.dataText

end SqlDiagnosis
