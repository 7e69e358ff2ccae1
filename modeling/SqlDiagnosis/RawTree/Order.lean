import SqlDiagnosis.RawTree.Column

/-!
# Order terms of a raw tree

An order term has a column and a direction. The direction is given in one of two
ways: by a flag that says descending, or by a word, ascending where it is
absent. A malformed term makes the list empty.
-/

namespace SqlDiagnosis.RawTree

open Value

/-- A column of the order clause and its direction. -/
structure OrderTerm where
  column : Value
  direction : String

/-- How the direction of a term is given. -/
inductive DirectionStyle where
  | flag
  | word
deriving DecidableEq, Repr

/-- Whether parentheses around a column are looked through. -/
def DirectionStyle.throughParens : DirectionStyle → Bool
  | .flag => false
  | .word => true

/-- The direction of a term. -/
def direction (style : DirectionStyle) (term : Value) :
    Except Fault String := do
  match style with
  | .flag =>
    return if ((← term.arg? "desc").getD (bool false)).truthy then "DESC"
      else "ASC"
  | .word =>
    match (← term.arg? "direction").getD (text "ASC") with
    | text s => return Text.upper s
    | v => .error (.noMember v.shape "upper")

/-- The term of a node of the order clause, if it orders by a column. -/
def orderTerm (style : DirectionStyle) (term : Value) :
    Except Fault (List OrderTerm) := do
  if !(← term.nodeClass).isText "Ordered" then return []
  let column ← underlyingColumn style.throughParens
    ((← term.arg? "this").getD null)
  if column.truthy then return [⟨column, ← direction style term⟩] else return []

/-- The terms of the order clause of a tree. -/
def orderTerms (style : DirectionStyle) (tree : Value) :
    Except Fault (List OrderTerm) :=
  if !tree.truthy then .ok []
  else do
    let order := (← tree.arg? "order").getD null
    if !order.truthy then return []
    Fault.absorb [.key, .member] [] do
      let terms ← elements (← order.partAt ["args", "expressions"])
      return (← terms.mapM (orderTerm style)).flatten

end SqlDiagnosis.RawTree
