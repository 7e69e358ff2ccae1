import SqlDiagnosis.Value

/-!
# Nodes of a query tree

A node has a kind, named arguments and facts about it that were established when
the query was read: the name it stands for, its table and schema, its type. An
argument is a node, a list or a plain value. Arguments are kept in the order of
their names, which is the order in which a tree is searched.
-/

namespace SqlDiagnosis

/-! ### Kinds -/

/-- Comparison operators. -/
inductive CompareOp where
  | eq
  | neq
  | lt
  | gt
  | lte
  | gte
deriving DecidableEq, Repr

/-- Aggregate functions; `other` is an aggregate of no particular name. -/
inductive Aggregate where
  | sum
  | avg
  | min
  | max
  | count
  | other
deriving DecidableEq, Repr

/-- Kinds of nodes. -/
inductive NodeKind where
  | identifier
  | column
  | table
  | tableAlias
  | aliased
  | star
  | literal
  | null
  | distinct
  | like
  | isTest
  | inTest
  | select
  | comparison (op : CompareOp)
  | aggregate (function : Aggregate)
  | function (name : String)
  | other (name : String)
deriving DecidableEq, Repr

namespace NodeKind

/-- The class names of functions that do not aggregate. -/
def functionNames : List String :=
  ["And", "Or", "Case", "Cast", "Coalesce", "Upper", "Lower", "Length",
    "Anonymous", "Exists", "Func"]

/-- The kind of a class name. -/
def ofName : String → NodeKind
  | "Identifier" => identifier
  | "Column" => column
  | "Table" => table
  | "TableAlias" => tableAlias
  | "Alias" => aliased
  | "Star" => star
  | "Literal" => literal
  | "Null" => null
  | "Distinct" => distinct
  | "Like" => like
  | "Is" => isTest
  | "In" => inTest
  | "Select" => select
  | "EQ" => comparison .eq
  | "NEQ" => comparison .neq
  | "LT" => comparison .lt
  | "GT" => comparison .gt
  | "LTE" => comparison .lte
  | "GTE" => comparison .gte
  | "Sum" => aggregate .sum
  | "Avg" => aggregate .avg
  | "Min" => aggregate .min
  | "Max" => aggregate .max
  | "Count" => aggregate .count
  | "AggFunc" => aggregate .other
  | name =>
    if functionNames.contains name then function name else other name

/-- The class name of a kind. -/
def name : NodeKind → String
  | identifier => "Identifier"
  | column => "Column"
  | table => "Table"
  | tableAlias => "TableAlias"
  | aliased => "Alias"
  | star => "Star"
  | literal => "Literal"
  | null => "Null"
  | distinct => "Distinct"
  | like => "Like"
  | isTest => "Is"
  | inTest => "In"
  | select => "Select"
  | comparison .eq => "EQ"
  | comparison .neq => "NEQ"
  | comparison .lt => "LT"
  | comparison .gt => "GT"
  | comparison .lte => "LTE"
  | comparison .gte => "GTE"
  | aggregate .sum => "Sum"
  | aggregate .avg => "Avg"
  | aggregate .min => "Min"
  | aggregate .max => "Max"
  | aggregate .count => "Count"
  | aggregate .other => "AggFunc"
  | function name | other name => name

@[simp] theorem name_ofName (s : String) : (ofName s).name = s := by
  unfold ofName
  split <;> try rfl
  split <;> rfl

/-- The name of the shape of a node of this kind: that of the kind, if it is one
of the known ones. -/
def shape : NodeKind → String
  | other _ => "Expression"
  | kind => kind.name

/-- Whether a node of this kind is an aggregate. -/
def isAggregate : NodeKind → Bool
  | aggregate _ => true
  | _ => false

/-- Whether a node of this kind is a function; aggregates are. -/
def isFunction : NodeKind → Bool
  | aggregate _ | function _ => true
  | _ => false

/-- Whether a node of this kind is a comparison. -/
def isComparison : NodeKind → Bool
  | comparison _ => true
  | _ => false

end NodeKind

/-! ### Nodes -/

/-- The type of a result and the messages that came up when it was found. -/
structure ResultType where
  type : Value
  messages : List (List Value)

/-- What is known about a node besides its arguments. -/
structure NodeFacts where
  sql : String
  name : Option String
  realName : Option String
  table : Option String
  schema : Option String
  tableIndex : Option Int
  resultType : ResultType
  errors : List (List Value)

/-- Facts of which nothing is known. -/
def NodeFacts.none : NodeFacts :=
  ⟨"", .none, .none, .none, .none, .none, ⟨.null, []⟩, []⟩

mutual

/-- A node of a query tree. -/
inductive Node where
  | mk (kind : NodeKind) (facts : NodeFacts) (args : List (String × Arg))

/-- An argument of a node. -/
inductive Arg where
  | node (n : Node)
  | list (items : List Arg)
  | value (v : Value)

end

namespace Arg

/-- The name of an argument's shape; that of a node depends on its kind. -/
def shape : Arg → String
  | node (.mk kind _ _) => kind.shape
  | list _ => "list"
  | value v => v.shape

/-- The node that an argument is. -/
def node? : Arg → Option Node
  | node n => some n
  | _ => none

/-- The node that an argument has to be in order to be searched. -/
def searched : Arg → Except Fault Node
  | node n => .ok n
  | a => .error (.noMember a.shape "find_all")

/-- The elements of an argument; there are none if it does not count as true. A
node has no elements. -/
def elements : Arg → Except Fault (List Arg)
  | list items => .ok items
  | value v => if v.truthy then return (← v.elements).map value else return []
  | a => .error (.notWalkable a.shape)

/-- Whether an argument is present: null counts as absent. -/
def isPresent : Arg → Bool
  | value .null => false
  | _ => true

end Arg

namespace Node

/-- The kind of a node. -/
def kind : Node → NodeKind
  | mk kind _ _ => kind

/-- The facts about a node. -/
def facts : Node → NodeFacts
  | mk _ facts _ => facts

/-- The arguments of a node. -/
def args : Node → List (String × Arg)
  | mk _ _ args => args

/-- Put an argument into a list of arguments in the order of names, in place of
one of the same name. -/
def insertArg (name : String) (arg : Arg) :
    List (String × Arg) → List (String × Arg)
  | [] => [(name, arg)]
  | (other, a) :: rest =>
    if name < other then (name, arg) :: (other, a) :: rest
    else if name == other then (name, arg) :: rest
    else (other, a) :: insertArg name arg rest

/-- A node with arguments in the order of their names; of two with one name the
later counts. -/
def build (kind : NodeKind) (facts : NodeFacts)
    (args : List (String × Arg)) : Node :=
  mk kind facts (args.foldl (fun sorted arg => insertArg arg.1 arg.2 sorted) [])

/-- The node with an argument replaced. -/
def setArg (n : Node) (name : String) (arg : Arg) : Node :=
  mk n.kind n.facts (insertArg name arg n.args)

/-- An argument of a node, if it is present. -/
def arg? (n : Node) (name : String) : Option Arg :=
  (n.args.lookup name).filter Arg.isPresent

/-- An argument of a node, null if it is absent. -/
def arg (n : Node) (name : String) : Arg := (n.arg? name).getD (.value .null)

/-- An argument of a node that is a node. -/
def child? (n : Node) (name : String) : Option Node :=
  (n.arg? name).bind Arg.node?

/-- The expressions of a node. -/
def expressions (n : Node) : Except Fault (List Arg) :=
  (n.arg "expressions").elements

end Node

end SqlDiagnosis
