import SqlDiagnosis.Finding

/-!
# Joined tables

The tables of a query are compared with those of the solutions; common table
expressions do not count. If the query has fewer tables than all solutions have
in common, those are reported that it lacks; if it has more than all solutions
together, the additional ones; else those that no solution has.
-/

namespace SqlDiagnosis.Join

/-- A table by its schema and its real name. -/
structure JoinedTable where
  schema : Option String
  name : Option String
deriving DecidableEq, Repr

/-- The tables of a query, each once. -/
def tablesOf (q : Query) : List JoinedTable :=
  members
    (((q.selects.flatMap (·.tables)).filter (·.cteIndex.isNone)).map fun t =>
      ⟨t.schema, t.realName⟩)

/-- The tables that several sets have in common. -/
def common (first : List JoinedTable) (rest : List (List JoinedTable)) :
    List JoinedTable :=
  first.filter fun t => rest.all (·.contains t)

/-- The tables of several sets, each once. -/
def together (first : List JoinedTable) (rest : List (List JoinedTable)) :
    List JoinedTable :=
  members (first ++ rest.flatten)

/-- A finding for each of some tables. -/
def report (category : Category) (tables : List JoinedTable) : List Finding :=
  tables.map fun t => ⟨category, [.text? t.schema, .text? t.name]⟩

/-- The findings about tables, given those that are expected by all and by some
solutions. -/
def compare (actual common all : List JoinedTable) : List Finding :=
  if actual.length < common.length then
    report .missingJoin (common.filter (!actual.contains ·))
  else if all.length < actual.length then
    report .extraneousJoin (actual.filter (!all.contains ·))
  else report .incorrectJoin (actual.filter (!all.contains ·))

/-- The findings about joined tables. There has to be a solution. -/
def findings (q : Query) (solutions : List Query) :
    Except Fault (List Finding) :=
  match solutions.map tablesOf with
  | [] => .error .listTooShort
  | first :: rest =>
    .ok (compare (tablesOf q) (common first rest) (together first rest))

end SqlDiagnosis.Join
