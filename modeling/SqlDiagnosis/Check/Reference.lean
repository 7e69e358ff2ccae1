import SqlDiagnosis.Finding
import SqlDiagnosis.Node.Render
import SqlDiagnosis.Node.Search

/-!
# References to columns, tables, functions and parameters

A column is defined when exactly one column of the referenced tables has its
name; if it is qualified, only the tables of that name count. A qualified table
is defined when its schema exists and has it; an unqualified one when it is a
common table expression, which the catalog lists under the empty schema, or a
table of the search path. Functions are known by name, and a token that starts
like a parameter is undefined.
-/

namespace SqlDiagnosis.Reference

/-- The qualifier of a name, if it has one that is not empty. -/
def qualifier? (name : Option String) : Option String := name.filter (· != "")

/-! ### Columns -/

/-- The referenced tables in which a column node may have its column. -/
def meantTables (b : QueryBlock) (column : Node) : List TableRef :=
  match qualifier? column.facts.table with
  | some table => b.tables.filter (·.name == some table)
  | none => b.tables

/-- The columns of the referenced tables that a column node may mean, each after
its table and a dot. -/
def columnMatches (b : QueryBlock) (column : Node) : List String :=
  (meantTables b column).flatMap fun t =>
    (t.columns.filter (· == column.facts.name)).map fun c =>
      Value.shown t.name ++ "." ++ Value.shown c

/-- The finding about a column node: none, undefined or ambiguous. -/
def columnFinding (b : QueryBlock) (column : Node) : List Finding :=
  match columnMatches b column with
  | [] => [⟨.undefinedColumn, [.text column.render]⟩]
  | [_] => []
  | several =>
    [⟨.ambiguousColumn,
      [.text column.render, .value (.list (several.map .text))]⟩]

/-- The column nodes of a block. -/
def columnsOf (b : QueryBlock) : List Node := b.ast.toList.flatMap Node.columns

/-- The findings about undefined and ambiguous columns. -/
def columnFindings (q : Query) : List Finding :=
  q.selects.flatMap fun s =>
    (columnsOf s.stripped).flatMap (columnFinding s.stripped)

/-! ### Tables -/

/-- Whether an unqualified table is a common table expression or on the search
path. -/
def isVisible (b : QueryBlock) (table : Option String) : Bool :=
  b.catalog.hasTable "" table || b.catalog.hasTable b.searchPath table

/-- The finding about a table node: none, an unknown schema or an unknown
table. -/
def tableFinding (b : QueryBlock) (table : Node) : List Finding :=
  match qualifier? table.facts.schema with
  | some schema =>
    if !b.catalog.hasSchema schema then
      [⟨.invalidSchemaName, [.text table.render]⟩]
    else if !b.catalog.hasTable schema table.facts.realName then
      [⟨.undefinedObject, [.text table.render]⟩]
    else []
  | none =>
    if isVisible b table.facts.realName then []
    else [⟨.undefinedObject, [.text table.render]⟩]

/-- The table nodes of a block. -/
def tablesOf (b : QueryBlock) : List Node := b.ast.toList.flatMap Node.tables

/-- The findings about undefined tables and schemas. -/
def tableFindings (q : Query) : List Finding :=
  q.selects.flatMap fun s =>
    (tablesOf s.stripped).flatMap (tableFinding s.stripped)

/-! ### Functions and parameters -/

/-- The functions that are known, and the operators that are written like
functions. -/
def knownFunctions : List String :=
  ["SUM", "AVG", "COUNT", "MIN", "MAX", "IN", "EXISTS", "ANY", "ALL",
    "COALESCE", "NULLIF", "CAST", "CONVERT", "UPPER", "LOWER", "LENGTH",
    "SUBSTRING", "NOW", "CURRENT_DATE", "CURRENT_TIME", "CURRENT_TIMESTAMP"]

/-- The findings about undefined functions. -/
def functionFindings (q : Query) : List Finding :=
  q.functions.filterMap fun use => do
    let name ← use.name
    if knownFunctions.contains (Text.upper name) then none
    else some ⟨.undefinedFunction, [.text name, .text? use.clause]⟩

/-- Whether a token starts like a parameter. -/
def isParameter (t : Token) : Bool :=
  [':', '@', '?'].any fun c => t.text.toList.head? == some c

/-- The findings about undefined parameters. -/
def parameterFindings (q : Query) : List Finding :=
  (q.tokens.filter isParameter).map fun t =>
    ⟨.undefinedParameter, [.text t.text]⟩

end SqlDiagnosis.Reference
