import SqlDiagnosis.Finding

/-!
# Selected columns

The columns that a query returns are compared with those of the solutions: how
many they are, where they come from and, if both agree, what they are called.
Their number is compared with the greatest or the least of the solutions, so
there has to be one. A query is to be distinct if all solutions are.
-/

namespace SqlDiagnosis.Projection

/-- The number of columns that a query returns. -/
def width (q : Query) : Nat := q.main.output.columns.length

/-- The columns from which the solutions get theirs, each once. -/
def required (solutions : List Query) : List OutputSource :=
  members (solutions.flatMap (·.sources))

/-- A finding for each of some columns. -/
def report (category : Category) (sources : List OutputSource) : List Finding :=
  sources.map fun s =>
    ⟨category, [.text? s.schema, .text? s.table, .text? s.column]⟩

/-- A finding about a number of columns. -/
def widthFinding (category : Category) (provided expected : Nat) : Finding :=
  ⟨category, [.int provided, .int expected]⟩

/-- The findings about columns that no solution has. -/
def extraneousFindings (q : Query) (solutions : List Query) :
    Except Fault (List Finding) :=
  match (solutions.map width).max? with
  | none => .error .noGreatest
  | some greatest => .ok <|
    (if greatest < width q then
        [widthFinding .extraneousColumn (width q) greatest] else []) ++
      report .extraneousColumn
        ((members q.sources).filter (!(required solutions).contains ·))

/-- The findings about columns that the query lacks. -/
def missingFindings (q : Query) (solutions : List Query) :
    Except Fault (List Finding) :=
  match (solutions.map width).min? with
  | none => .error .noLeast
  | some least => .ok <|
    (if width q < least then
        [widthFinding .missingColumn (width q) least] else []) ++
      report .missingColumn ((required solutions).filter (!q.sources.contains ·))

/-- The names of the columns that a query returns. -/
def columnNames (q : Query) : List (Option String) :=
  q.main.output.columns.map (·.name)

/-- The names that all solutions have in common, each once. -/
def commonNames : List Query → List (Option String)
  | [] => []
  | first :: rest =>
    (members (columnNames first)).filter fun name =>
      rest.all fun q => (columnNames q).contains name

/-- The findings about names that the query lacks, if its columns are right
otherwise. -/
def aliasFindings (q : Query) (solutions : List Query) :
    Except Fault (List Finding) := do
  let extraneous ← extraneousFindings q solutions
  let missing ← missingFindings q solutions
  return if extraneous.isEmpty && missing.isEmpty then
    ((commonNames solutions).filter (!(columnNames q).contains ·)).map fun name =>
      ⟨.missingAlias, [.text? name]⟩
  else []

/-! ### DISTINCT -/

/-- Whether an output has a unique set of columns that is at least as large as
the output itself. -/
def isDistinct (o : Output) : Bool :=
  o.columns.length ≤ ((o.unique.map (·.columnSet.length)).max?).getD 0

/-- The finding about a query that is not distinct although all solutions
are. -/
def distinctFindings (q : Query) (solutions : List Query) : List Finding :=
  if (solutions.all (isDistinct ·.main.output)) &&
      !isDistinct q.main.output then
    [⟨.missingDistinct, []⟩]
  else []

/-- The findings about distinct selects whose rows differ anyway. -/
def needlessDistinctFindings (q : Query) : List Finding :=
  (q.selects.filter fun s =>
    s.distinct && s.output.unique.any (·.kind != .distinct)).map fun s =>
      ⟨.unnecessaryDistinct, [.text s.sql]⟩

end SqlDiagnosis.Projection
