import SqlDiagnosis.Check.Correction
import SqlDiagnosis.Check.Reference
import SqlDiagnosis.Text.Similarity

/-!
# Misspelt tables and columns

A name that is not defined is compared with all names that are available, and
the closest one is proposed. A qualified name is compared as a whole with the
qualified names, so that either part may be misspelt; the match is split at its
dot, and a match with several dots cannot be split. Corrections are collected as
a set.
-/

namespace SqlDiagnosis.Spelling

open Reference

/-- A name after its qualifier and a dot. -/
def qualified (qualifier : String) (name : Option String) : String :=
  qualifier ++ "." ++ Value.shown name

/-- A qualified name in two parts. -/
def split (name : String) : Except Fault (String × String) :=
  match name.toList.splitOn '.' with
  | [a, b] => .ok (String.ofList a, String.ofList b)
  | _ => .error .tooManyParts

/-- The available name that is closest to a name. Neither it nor any of those
may be absent. -/
def closestTo (name : Option String) (available : List (Option String)) :
    Except Fault (Option String) :=
  match name with
  | none => .error (.notWalkable Value.null.shape)
  | some name =>
    if available.contains none then .error (.noLength Value.null.shape)
    else .ok (Text.closest? name (available.filterMap id))

/-! ### Tables -/

/-- The correction of a qualified table. -/
def qualifiedTable (b : QueryBlock) (table : Node) (schema : String) :
    Except Fault (Option Correction) :=
  if b.catalog.hasTable schema table.facts.realName then .ok none
  else match Text.closest? (qualified schema table.facts.realName)
      b.catalog.qualifiedNames with
    | none => .ok none
    | some name => do
      let (s, t) ← split name
      return some ⟨table.render, ((table.setSchema s).setName "this" t).render⟩

/-- The correction of an unqualified table, which gets a schema unless that is
the search path. -/
def unqualifiedTable (b : QueryBlock) (table : Node) :
    Except Fault (Option Correction) :=
  if isVisible b table.facts.realName then .ok none
  else do
    let some name ← closestTo table.facts.realName
        (b.catalog.tableNames.map some) | return none
    let renamed := table.setName "this" name
    let placed := match b.catalog.schemaOf? name with
      | some schema =>
        if schema == b.searchPath then renamed else renamed.setSchema schema
      | none => renamed
    return some ⟨table.render, placed.render⟩

/-- The correction of a table node. -/
def tableCorrection (b : QueryBlock) (table : Node) :
    Except Fault (Option Correction) :=
  match qualifier? table.facts.schema with
  | some schema => qualifiedTable b table schema
  | none => unqualifiedTable b table

/-- The corrections of the nodes of all selects, each once. -/
def collect (q : Query) (nodes : QueryBlock → List Node)
    (correct : QueryBlock → Node → Except Fault (Option Correction)) :
    Except Fault (List Correction) := do
  let found ← q.selects.mapM fun s =>
    (nodes s.stripped).mapM (correct s.stripped)
  return members (found.flatten.filterMap id)

/-- The corrections of misspelt tables. -/
def tableCorrections (q : Query) : Except Fault (List Correction) :=
  collect q tablesOf tableCorrection

/-! ### Columns -/

/-- Whether a referenced table, of the given name if there is one, has the
column. -/
def hasColumn (b : QueryBlock) (table : Option String)
    (column : Option String) : Bool :=
  b.tables.any fun t =>
    table.all (t.name == some ·) && t.columns.contains column

/-- The correction of a column node. -/
def columnCorrection (b : QueryBlock) (column : Node) :
    Except Fault (Option Correction) :=
  let table := qualifier? column.facts.table
  if hasColumn b table column.facts.name then .ok none
  else match table with
    | some table =>
      match Text.closest? (qualified table column.facts.name)
          b.qualifiedColumns with
      | none => .ok none
      | some name => do
        let (t, c) ← split name
        return some ⟨column.render,
          ((column.setName "table" t).setName "this" c).render⟩
    | none => do
      let some name ← closestTo column.facts.name b.columnNames | return none
      return some ⟨column.render, (column.setName "this" name).render⟩

/-- The corrections of misspelt columns. -/
def columnCorrections (q : Query) : Except Fault (List Correction) :=
  collect q columnsOf columnCorrection

end SqlDiagnosis.Spelling
