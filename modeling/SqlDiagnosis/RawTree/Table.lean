import SqlDiagnosis.RawTree.Access
import SqlDiagnosis.Value.Display

/-!
# Tables of a raw tree

The tables of a tree are those of its FROM clause and of its joins. They are
collected below aliases and joins into a list that only grows. A table is given
by its name, or with its alias where that is asked for.
-/

namespace SqlDiagnosis.RawTree

open Value

/-- The alias of a table, taken from its alias node. -/
def aliasName (aliasNode : Value) : Except Fault Value := do
  let holder := (← aliasNode.arg? "this").getD (record [])
  return (← holder.arg? "this").getD null

/-- The name of a table node, with its alias if that is asked for and there is
one. -/
def tableName (withAlias : Bool) (node : Value) : Except Fault Value := do
  let name ← node.partAt ["args", "this", "args", "this"]
  let aliasNode := (← node.arg? "alias").getD null
  if withAlias && aliasNode.truthy then
    return text (name.display ++ " AS " ++ (← aliasName aliasNode).display)
  else return name

/-- Add the tables below a node to a list. -/
def collectTables (withAlias : Bool) (node : Value) (tables : List Value) :
    Except Fault (List Value) :=
  match node with
  | record fields =>
    let nodeClass := (fields.lookup "class").getD null
    if nodeClass.isText "Alias" then
      match _ : (record fields).arg? "this" with
      | .error f => .error f
      | .ok none => .ok tables
      | .ok (some inner) => collectTables withAlias inner tables
    else if nodeClass.isText "Table" then
      Fault.absorb [.key, .shape] tables do
        return tables ++ [← tableName withAlias (record fields)]
    else if nodeClass.isText "Join" then do
      let tables ← match _ : (record fields).arg? "this" with
        | .error f => .error f
        | .ok none => .ok tables
        | .ok (some inner) => collectTables withAlias inner tables
      match _ : (record fields).arg? "expression" with
      | .error f => .error f
      | .ok none => .ok tables
      | .ok (some inner) => collectTables withAlias inner tables
    else .ok tables
  | _ => .ok tables
termination_by sizeOf node
decreasing_by
  all_goals rename_i h
  all_goals exact sizeOf_arg?_lt h

/-- The tables of a tree, each once. -/
def fromTables (withAlias : Bool) (tree : Value) : Except Fault (List Value) :=
  if !tree.truthy then .ok []
  else do
    let args ← tree.nodeArgs
    let source := (← args.member? "from").getD null
    let tables ←
      if source.truthy then
        let main := (← source.arg? "this").getD null
        if main.truthy then collectTables withAlias main [] else .ok []
      else .ok []
    let joins ← elements ((← args.member? "joins").getD (list []))
    let tables ← joins.foldlM
      (fun tables join => collectTables withAlias join tables) tables
    tables.forM hashable
    return distinct tables

end SqlDiagnosis.RawTree
