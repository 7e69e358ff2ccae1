import SqlDiagnosis.Finding
import SqlDiagnosis.Node.Search

/-!
# Types

The branches of a set operation have to have the same type: each is compared
with the first branch that has one. The messages that came up when a type was
found are findings of their own. A message about an IS test is reported again
when the test was to be of a truth value or null.
-/

namespace SqlDiagnosis.Typing

/-! ### Compatible type names -/

/-- Types of text. -/
def textTypes : List String := ["varchar", "text", "char", "string"]

/-- Types of numbers. -/
def numberTypes : List String :=
  ["int", "integer", "float", "double", "decimal", "numeric", "real"]

/-- Whether values of two types, given in lower case, can be compared. -/
def comparable (a b : String) : Bool :=
  a == b || (textTypes.contains a && textTypes.contains b) ||
    (numberTypes.contains a && numberTypes.contains b)

/-- A type name in lower case; only text is one. -/
def typeName : Value → Except Fault String
  | .text s => .ok (Text.lower s)
  | v => .error (.noMember v.shape "lower")

/-- Whether values of two types can be compared. -/
def compatible (a b : Value) : Except Fault Bool := do
  let a ← typeName a
  let b ← typeName b
  return comparable a b

/-! ### Set operations -/

/-- The types of the branches that have one. -/
def branchTypes (op : SetOperation) : List ResultType :=
  op.branches.filterMap fun s => s.typedAst.map (·.facts.resultType)

/-- A finding with the data of a message. -/
def messageFinding (category : Category) (message : List Value) : Finding :=
  ⟨category, message.map .value⟩

/-- The findings about one branch, given the type that is expected. -/
def branchFindings (location : String) (expected type : ResultType) :
    List Finding :=
  (if expected.type.same type.type then []
    else [⟨.dataTypeMismatch,
      [.text location, .text "setop types inconsistent"]⟩]) ++
    type.messages.map (messageFinding .dataTypeMismatch)

/-- The findings about the branches of a set operation. The first type is the
expected one. -/
def operationFindings (location : String) (op : SetOperation) : List Finding :=
  match branchTypes op with
  | [] => []
  | first :: rest =>
    first.messages.map (messageFinding .dataTypeMismatch) ++
      rest.flatMap (branchFindings location first)

/-- The findings about types. -/
def mismatchFindings (q : Query) : List Finding :=
  q.ctes.flatMap (fun cte =>
      operationFindings ("CTE " ++ Value.shown cte.output.name) cte) ++
    operationFindings "Main Query" q.main

/-! ### IS tests -/

/-- The type that the right side of an IS test has to have. -/
def testedType : String := "boolean|null"

/-- The findings about the messages of an IS test. A message names the expected
type in its third place. -/
def testFindings (messages : List (List Value)) :
    Except Fault (List Finding) := do
  let found ← messages.mapM fun message =>
    match message[2]? with
    | none => .error .tupleTooShort
    | some expected =>
      .ok (if expected.isText testedType then
        [messageFinding .isNotApplicable message] else [])
  return found.flatten

/-- The IS tests of a set operation. -/
def testsOf (op : SetOperation) : List Node :=
  op.branches.flatMap fun s =>
    s.typedAst.toList.flatMap (·.findAll (· == .isTest))

/-- The findings about IS tests. -/
def isTestFindings (q : Query) : Except Fault (List Finding) := do
  let found ← (q.setOperations.flatMap testsOf).mapM fun n =>
    testFindings n.facts.errors
  return found.flatten

end SqlDiagnosis.Typing
