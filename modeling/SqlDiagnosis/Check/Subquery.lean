import SqlDiagnosis.Finding

/-!
# Subqueries

A subquery returns one column, except in the FROM clause and under EXISTS. Its
order does not matter unless it is cut off, so an ORDER BY without a LIMIT is
reported, once for each text.
-/

namespace SqlDiagnosis.Subquery

/-- Whether a subquery in this clause may return any number of columns. -/
def isFree (clause : Option String) : Bool :=
  clause == some "FROM" || clause == some "EXISTS"

/-- All subqueries of a query in the order of its selects. -/
def subqueriesOf (q : Query) : List Subquery := q.selects.flatMap (·.subqueries)

/-- How many columns more than one a subquery returns. -/
def surplus (s : Subquery) : Int := (s.block.output.columns.length : Int) - 1

/-- The findings about subqueries that do not return one column. -/
def columnFindings (q : Query) : List Finding :=
  (subqueriesOf q).filterMap fun s =>
    if isFree s.clause || surplus s == 0 then none
    else some ⟨.subqueryColumns, [.text s.block.sql, .int (surplus s)]⟩

/-- The subqueries whose text has not come before. -/
def firstOfText (subqueries : List Subquery) : List Subquery :=
  subqueries.foldl
    (fun seen s =>
      if seen.any (·.block.sql == s.block.sql) then seen else seen ++ [s]) []

/-- The findings about ordered subqueries. -/
def orderFindings (q : Query) : List Finding :=
  ((firstOfText (subqueriesOf q)).filter fun s =>
    s.block.orderBy && !s.block.limit).map fun s =>
      ⟨.orderByInSubquery, [.text s.block.sql]⟩

end SqlDiagnosis.Subquery
