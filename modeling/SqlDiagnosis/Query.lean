import SqlDiagnosis.Catalog
import SqlDiagnosis.Formula
import SqlDiagnosis.Members
import SqlDiagnosis.Node
import SqlDiagnosis.Token
import SqlDiagnosis.Value.Display

/-!
# Queries

A query is a text and its reading. The reading has the statements as tokens, the
selects of the query, the functions that are called, the set operations of its
common table expressions and of its main part, and the columns that the output
comes from.

A name that is not known is absent, and is displayed like null.

How a text is read is not decided here: a `Reader` gives for a text, a catalog
and a search path its reading or the fault that there was.
-/

namespace SqlDiagnosis

/-! ### Outputs and constraints -/

/-- A column of a constraint or a list: its name and the place of its table, as
far as they are known. -/
structure ColumnAt where
  name : Option String
  table : Option Int
deriving DecidableEq, Repr

/-- Kinds of constraints. -/
inductive ConstraintKind where
  | unique
  | distinct
  | groupBy
  | other (label : String)
deriving DecidableEq, Repr

/-- The label of a kind of constraint. -/
def ConstraintKind.label : ConstraintKind → String
  | unique => "UNIQUE"
  | distinct => "DISTINCT"
  | groupBy => "GROUP_BY"
  | other label => label

/-- A constraint on a set of columns; the order of the columns and repetitions
do not matter. -/
structure Constraint where
  kind : ConstraintKind
  columns : List ColumnAt
deriving DecidableEq, Repr

namespace Constraint

/-- The columns, each once. -/
def columnSet (c : Constraint) : List ColumnAt := members c.columns

/-- Whether all columns of a constraint are among others. -/
def within (c : Constraint) (columns : List ColumnAt) : Bool :=
  c.columns.all columns.contains

/-- Whether a constraint is on exactly these columns. -/
def isOn (c : Constraint) (columns : List ColumnAt) : Bool :=
  c.within columns && columns.all c.columns.contains

end Constraint

/-- A column of an output. -/
structure OutputColumn where
  name : Option String
  isConstant : Bool
deriving DecidableEq, Repr

/-- What a select or a set operation returns, and the columns on which its rows
are known to differ. -/
structure Output where
  name : Option String
  columns : List OutputColumn
  unique : List Constraint
deriving DecidableEq, Repr

/-- Where a column of the output comes from. -/
structure OutputSource where
  schema : Option String
  table : Option String
  column : Option String
deriving DecidableEq, Repr

/-! ### Selects -/

/-- A table that a select refers to: the name used for it, its real name and
schema, the common table expression it stands for if any, and its columns. -/
structure TableRef where
  name : Option String
  realName : Option String
  schema : Option String
  cteIndex : Option Int
  columns : List (Option String)
deriving DecidableEq, Repr

/-- One SELECT without regard to nesting. -/
structure QueryBlock where
  sql : String
  ast : Option Node
  typedAst : Option Node
  tokens : List Token
  tables : List TableRef
  catalog : Catalog
  searchPath : String
  groupBy : List Node
  having : Bool
  orderBy : Bool
  limit : Bool
  distinct : Bool
  output : Output
  constraints : List Constraint

/-- The names of all columns of the referenced tables. -/
def QueryBlock.columnNames (b : QueryBlock) : List (Option String) :=
  b.tables.flatMap (·.columns)

/-- The names of all columns of the referenced tables, each after its table and
a dot. -/
def QueryBlock.qualifiedColumns (b : QueryBlock) : List String :=
  b.tables.flatMap fun t =>
    t.columns.map fun c => Value.shown t.name ++ "." ++ Value.shown c

/-- A subquery and the clause it stands in. -/
structure Subquery where
  block : QueryBlock
  clause : Option String

/-- A select: its own block, the block that is left when its subqueries are
taken out, the block in which they are replaced by the literal one, its
subqueries, and its condition in disjunctive form. -/
structure Select extends QueryBlock where
  stripped : QueryBlock
  strippedToOne : QueryBlock
  subqueries : List Subquery
  condition : List Disjunct

/-! ### Queries -/

/-- The item at a place, counted from zero; a negative place is counted from the
end. -/
def itemAt {α : Type} (items : List α) (place : Int) : Except Fault α :=
  let i := if 0 ≤ place then place else items.length + place
  match if 0 ≤ i then items[i.toNat]? else none with
  | some item => .ok item
  | none => .error .listTooShort

/-- Several selects with a common output. -/
structure SetOperation where
  output : Output
  branches : List Select

/-- The set operation of the selects at some places. -/
def SetOperation.ofPlaces (selects : List Select) (output : Output)
    (places : List Int) : Except Fault SetOperation :=
  return ⟨output, ← places.mapM (itemAt selects)⟩

/-- A called function and the clause it stands in, as far as they are known. -/
structure FunctionUse where
  name : Option String
  clause : Option String
deriving DecidableEq, Repr

/-- The reading of a text. -/
structure Reading where
  statements : List (List Token)
  selects : List Select
  functions : List FunctionUse
  ctes : List SetOperation
  main : SetOperation
  sources : List OutputSource

/-- All tokens of a reading. -/
def Reading.tokens (r : Reading) : List Token := r.statements.flatten

/-- All set operations of a reading, that of the main part last. -/
def Reading.setOperations (r : Reading) : List SetOperation :=
  r.ctes ++ [r.main]

/-- A text and its reading. -/
structure Query extends Reading where
  sql : String

/-- The reading of a text under a catalog and a search path. -/
abbrev Reader := String → Catalog → String → Except Fault Reading

/-- Read a text. -/
def Reader.read (r : Reader) (catalog : Catalog) (searchPath : String)
    (text : String) : Except Fault Query :=
  match r text catalog searchPath with
  | .ok reading => .ok { reading with sql := text }
  | .error fault => .error fault

theorem Reader.sql_of_read {r : Reader} {catalog : Catalog}
    {searchPath text : String} {q : Query}
    (h : r.read catalog searchPath text = .ok q) : q.sql = text := by
  unfold Reader.read at h
  split at h
  · cases h; rfl
  · cases h

end SqlDiagnosis
