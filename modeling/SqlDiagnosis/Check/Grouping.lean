import SqlDiagnosis.Finding
import SqlDiagnosis.Node.Render
import SqlDiagnosis.Node.Search
import SqlDiagnosis.Text.Integer

/-!
# Grouping

In a select with a GROUP BY clause, what is selected without being aggregated
has to be grouped, and what is grouped has to be selected and must not be
aggregated. Two columns are taken for one when their names or their aliases
agree. A number in the GROUP BY clause means the selected column at that place,
counted from one; a text that is no number, and a number that is no place, mean
nothing.

A grouping is needless when a unique set of columns lies within the grouped
ones, since each group then has one row, and when the columns of the select are
the grouped ones and nothing is aggregated, since DISTINCT would do.
-/

namespace SqlDiagnosis.Grouping

/-- A selected or grouped column: its name, its alias, and whether it is
aggregated. -/
structure GroupColumn where
  name : Option String
  aliasName : Option String
  aggregated : Bool
deriving DecidableEq, Repr

namespace GroupColumn

/-- The column of a column node or an alias. -/
def ofNode (n : Node) : GroupColumn := ⟨n.facts.realName, n.facts.name, false⟩

/-- A column of a table, without an alias of its own. -/
def ofName (name : Option String) : GroupColumn := ⟨name, name, false⟩

/-- An aggregated column, whose name and alias are its text. -/
def ofAggregate (n : Node) : GroupColumn := ⟨some n.render, some n.render, true⟩

/-- Whether two columns are taken for one. -/
def agrees (c d : GroupColumn) : Bool :=
  c.name == d.name || c.aliasName == d.aliasName

end GroupColumn

/-! ### Selected and grouped columns -/

/-- The columns that a selected expression contributes. A star stands for all
columns of the referenced tables. -/
def contributed (b : QueryBlock) (n : Node) : List GroupColumn :=
  match n.kind with
  | .column | .aliased => [.ofNode n]
  | .star => b.columnNames.map .ofName ++ n.columns.map .ofNode
  | kind => if kind.isFunction then [.ofAggregate n] else n.columns.map .ofNode

/-- The columns of one selected expression. -/
def selected (b : QueryBlock) (expression : Arg) :
    Except Fault (List GroupColumn) :=
  return contributed b (← expression.searched)

/-- All selected columns. -/
def selectedColumns (b : QueryBlock) (ast : Node) :
    Except Fault (List GroupColumn) :=
  return (← (← ast.expressions).mapM (selected b)).flatten

/-- The integer that a literal stands for; a text and an undefined number may
stand for none. -/
def number? : Arg → Except Fault (Option Int)
  | .value (.text s) => .ok (Text.integer? s)
  | .value (.int n) => .ok (some n)
  | .value (.bool b) => .ok (some (if b then 1 else 0))
  | .value (.real (.finite x)) => .ok (some x.truncate)
  | .value (.real (.infinite _)) => .error .infiniteInteger
  | .value (.real .undefined) => .ok none
  | a => .error (.notInteger a.shape)

/-- The column at a place, counted from one. -/
def columnAtPlace (columns : List GroupColumn) (place : Int) :
    Option GroupColumn :=
  if 1 ≤ place then columns[place.toNat - 1]? else none

/-- The columns of one grouped expression. -/
def grouped (columns : List GroupColumn) (n : Node) :
    Except Fault (List GroupColumn) :=
  match n.kind with
  | .column => .ok [.ofNode n]
  | .literal =>
    return ((← number? (n.arg "this")).bind (columnAtPlace columns)).toList
  | kind =>
    .ok (if kind.isAggregate then [.ofAggregate n] else n.columns.map .ofNode)

/-- All grouped columns, each once. -/
def groupedColumns (b : QueryBlock) (columns : List GroupColumn) :
    Except Fault (List GroupColumn) :=
  return members (← b.groupBy.mapM (grouped columns)).flatten

/-! ### Omitted and extraneous columns -/

/-- A finding about a column. -/
def columnFinding (c : GroupColumn) (what : String) : Finding :=
  ⟨.groupingColumn, [.text? c.name, .text what]⟩

/-- The findings about selected columns that are not grouped. -/
def omitted (columns groups : List GroupColumn) : List Finding :=
  ((members columns).filter fun c => !c.aggregated && !groups.any c.agrees).map
    (columnFinding · "ONLY IN SELECT")

/-- The findings about grouped columns that are aggregated or not selected. -/
def extraneous (columns groups : List GroupColumn) : List Finding :=
  groups.filterMap fun g =>
    if g.aggregated then some (columnFinding g "AGGREGATED IN GROUP BY")
    else if columns.any g.agrees then none
    else some (columnFinding g "ONLY IN GROUP BY")

/-- The findings about the grouping of a block. -/
def blockFindings (b : QueryBlock) : Except Fault (List Finding) :=
  match b.ast with
  | none => .ok []
  | some ast =>
    if b.groupBy.isEmpty then .ok []
    else do
      let columns ← selectedColumns b ast
      let groups ← groupedColumns b columns
      return omitted columns groups ++ extraneous columns groups

/-- The findings about omitted and extraneous grouping columns. -/
def columnFindings (q : Query) : Except Fault (List Finding) :=
  return (← q.selects.mapM (blockFindings ·.toQueryBlock)).flatten

/-- The findings about HAVING without GROUP BY. -/
def havingFindings (q : Query) : List Finding :=
  (q.selects.filter fun s => s.having && s.groupBy.isEmpty).map fun _ =>
    ⟨.havingWithoutGroupBy, []⟩

/-! ### Needless grouping -/

/-- The constraint of the grouping and a unique one within it, the first of
each. -/
def singletonGroups? (b : QueryBlock) : Option (Constraint × Constraint) := do
  let group ← b.constraints.find? (·.kind == .groupBy)
  let unique ← b.constraints.find? fun c =>
    c.kind == .unique && c.within group.columns
  return (group, unique)

/-- The findings about groups of one row. -/
def singletonFindings (q : Query) : List Finding :=
  (q.selects.filter (!·.groupBy.isEmpty)).filterMap fun s =>
    (singletonGroups? s.toQueryBlock).map fun (group, unique) =>
      ⟨.singletonGroups, [.constraint group, .constraint unique]⟩

/-- Whether an aggregate occurs in one of the expressions; they are searched in
order. -/
def anyAggregate : List Arg → Except Fault Bool
  | [] => .ok false
  | e :: rest => do
    let n ← e.searched
    if n.aggregates.isEmpty then anyAggregate rest else return true

/-- The columns of some nodes, each once. -/
def columnSet (nodes : List Node) : List ColumnAt :=
  members ((nodes.flatMap Node.columns).map fun n =>
    ⟨n.facts.realName, n.facts.tableIndex⟩)

/-- The data of a set of columns. -/
def columnData (columns : List ColumnAt) : Datum :=
  .set (columns.map fun c => .tuple [.text? c.name, .int? c.table])

/-- The findings about a grouping for which DISTINCT would do. -/
def distinctBlock (b : QueryBlock) : Except Fault (List Finding) :=
  match b.ast with
  | none => .ok []
  | some ast =>
    if b.groupBy.isEmpty then .ok []
    else do
      let expressions ← ast.expressions
      if ← anyAggregate expressions then return []
      let columns := columnSet (expressions.filterMap Arg.node?)
      let groups := columnSet b.groupBy
      return if columns.all groups.contains && groups.all columns.contains
        then [⟨.groupByAsDistinct, [columnData columns]⟩] else []

/-- The findings about groupings for which DISTINCT would do. -/
def distinctFindings (q : Query) : Except Fault (List Finding) :=
  return (← q.selects.mapM (distinctBlock ·.stripped)).flatten

end SqlDiagnosis.Grouping
