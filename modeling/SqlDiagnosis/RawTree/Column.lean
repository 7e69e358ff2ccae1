import SqlDiagnosis.RawTree.Access
import SqlDiagnosis.Text.Case

/-!
# Columns of a raw tree

The column behind an expression is found below its aliases, and below its
parentheses if those are looked through. The name of a qualified column is under
`expression`, that of a plain one under `this`. Where no name is found the
column is null.
-/

namespace SqlDiagnosis.RawTree

open Value

/-- The name of a column node, or null if it has none in either place. -/
def columnName (node : Value) : Value :=
  match node.partAt ["args", "expression", "args", "this"] with
  | .ok name => name
  | .error _ =>
    match node.partAt ["args", "this", "args", "this"] with
    | .ok name => name
    | .error _ => null

/-- Whether a node of this class stands around another expression. -/
def isWrapper (throughParens : Bool) (nodeClass : Value) : Bool :=
  nodeClass.isText "Alias" || (throughParens && nodeClass.isText "Paren")

/-- The name of the column behind an expression. -/
def underlyingColumn (throughParens : Bool) (node : Value) :
    Except Fault Value :=
  match node with
  | record fields =>
    let nodeClass := (fields.lookup "class").getD null
    if nodeClass.isText "Column" then .ok (columnName (record fields))
    else if isWrapper throughParens nodeClass then
      match _ : (record fields).arg? "this" with
      | .error f => .error f
      | .ok none => .ok null
      | .ok (some inner) => underlyingColumn throughParens inner
    else .ok null
  | _ => .ok null
termination_by sizeOf node
decreasing_by
  rename_i h
  exact sizeOf_arg?_lt h

/-- The elements of the select list of a tree. -/
def selectList (tree : Value) : Except Fault (List Value) := do
  elements ((← tree.arg? "expressions").getD (list []))

/-- The columns behind the select list, as far as there are any. -/
def selectColumns (throughParens : Bool) (tree : Value) :
    Except Fault (List Value) :=
  if !tree.truthy then .ok []
  else do
    let columns ← (← selectList tree).mapM (underlyingColumn throughParens)
    return columns.filter truthy

/-- A name in lower case, which only text has. -/
def lowered : Value → Except Fault Value
  | text s => .ok (text (Text.lower s))
  | v => .error (.noMember v.shape "lower")

/-- The columns behind a list of expressions, each found and put in lower case
before the next. -/
def loweredColumns : List Value → Except Fault (List Value)
  | [] => .ok []
  | node :: rest => do
    let name ← underlyingColumn false node
    if name.truthy then return (← lowered name) :: (← loweredColumns rest)
    else loweredColumns rest

/-- The columns behind the select list in lower case. -/
def selectColumnsLowered (tree : Value) : Except Fault (List Value) :=
  if !tree.truthy then .ok [] else do loweredColumns (← selectList tree)

/-! ### Stars -/

/-- Whether one of the nodes is a star; they are asked in order. -/
def anyStar : List Value → Except Fault Bool
  | [] => .ok false
  | node :: rest => do
    if (← node.nodeClass).isText "Star" then return true else anyStar rest

/-- Whether the select list has a star. A tree without a select list has
none. -/
def selectsStar (tree : Value) : Except Fault Bool :=
  if !tree.truthy then .ok false
  else Fault.absorb [.key, .shape] false do
    anyStar (← elements (← tree.partAt ["args", "expressions"]))

end SqlDiagnosis.RawTree
