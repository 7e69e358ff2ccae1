import SqlDiagnosis.RawTree.Column

/-!
# Comparisons and aggregates of a raw tree

A comparison is read when its left side is a column and its right side a
literal; comparisons are collected below conjunctions and disjunctions, from
left to right. An aggregate of the select list is read with the column it works
on, or with a star.
-/

namespace SqlDiagnosis.RawTree

open Value

/-- A comparison of a column with a literal. -/
structure Comparison where
  column : Value
  operator : String
  literal : Value

/-- The classes of comparison nodes. -/
def comparisonClasses : List String := ["EQ", "NE", "GT", "GTE", "LT", "LTE"]

/-- The classes of nodes that join conditions. -/
def joiningClasses : List String := ["And", "Or"]

/-- A class that is one of the given ones. The class has to be fit for a set. -/
def oneOf (nodeClass : Value) (classes : List String) :
    Except Fault (Option String) := do
  nodeClass.hashable
  match nodeClass with
  | text s => return if classes.contains s then some s else none
  | _ => return none

/-- The comparison of two sides by an operator, if it is one of a column with a
literal. -/
def compareSides (operator : String) (left right : Value) :
    Except Fault (List Comparison) := do
  if !(← left.nodeClass).isText "Column" then return []
  if !(← right.nodeClass).isText "Literal" then return []
  Fault.absorb [.key] [] do
    let column ← left.partAt ["args", "this", "args", "this"]
    let literal ← right.partAt ["args", "this"]
    return [⟨column, operator, literal⟩]

/-- The comparisons of a condition. -/
def comparisons (node : Value) : Except Fault (List Comparison) :=
  match node with
  | record fields =>
    if fields.isEmpty then .ok []
    else do
      let nodeClass := (fields.lookup "class").getD null
      match ← oneOf nodeClass comparisonClasses with
      | some operator =>
        let args ← (record fields).nodeArgs
        let left := (← args.member? "this").getD (record [])
        let right := (← args.member? "expression").getD (record [])
        compareSides operator left right
      | none =>
        match ← oneOf nodeClass joiningClasses with
        | none => return []
        | some _ =>
          let onLeft ← match _ : (record fields).arg? "this" with
            | .error f => .error f
            | .ok none => .ok []
            | .ok (some inner) => comparisons inner
          let onRight ← match _ : (record fields).arg? "expression" with
            | .error f => .error f
            | .ok none => .ok []
            | .ok (some inner) => comparisons inner
          return onLeft ++ onRight
  | _ => .ok []
termination_by sizeOf node
decreasing_by
  all_goals rename_i h
  all_goals exact sizeOf_arg?_lt h

/-! ### Aggregates -/

/-- The classes of aggregates that are read. -/
def aggregateClasses : List String := ["Avg", "Sum", "Count", "Min", "Max"]

/-- The aggregate of one expression of the select list: its class and its column
or star. -/
def aggregateOf (node : Value) : Except Fault (List (String × Value)) := do
  match ← oneOf (← node.nodeClass) aggregateClasses with
  | none => return []
  | some name =>
    let target := (← node.arg? "this").getD (record [])
    let targetClass ← target.nodeClass
    if targetClass.isText "Star" then return [(name, text "*")]
    else if targetClass.isText "Column" then
      Fault.absorb [.key] [] do
        return [(name, ← target.partAt ["args", "this", "args", "this"])]
    else return []

/-- The aggregates of the select list. -/
def aggregates (tree : Value) : Except Fault (List (String × Value)) :=
  if !tree.truthy then .ok []
  else do return (← (← selectList tree).mapM aggregateOf).flatten

end SqlDiagnosis.RawTree
