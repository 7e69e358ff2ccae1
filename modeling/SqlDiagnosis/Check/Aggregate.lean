import SqlDiagnosis.Finding
import SqlDiagnosis.Node.Render
import SqlDiagnosis.Node.Search

/-!
# Aggregates

An aggregate stands in the SELECT or HAVING clause, does not contain another
one, and rarely needs DISTINCT: the sum and the average of distinct values are
suspicious unless a solution has them, the least and the greatest value never
need it, and neither does a constant or a unique column.
-/

namespace SqlDiagnosis.Aggregate

/-- The aggregates that are checked by name. -/
def names : List String := ["SUM", "AVG", "COUNT", "MIN", "MAX"]

/-- The findings about aggregates outside the SELECT and HAVING clauses. -/
def placeFindings (q : Query) : List Finding :=
  q.functions.filterMap fun use => do
    let name ← use.name
    if names.contains (Text.upper name) &&
        !(use.clause == some "SELECT" || use.clause == some "HAVING") then
      some ⟨.aggregateOutsideSelect, [.text name, .text? use.clause]⟩
    else none

/-! ### Nesting -/

/-- The findings about the aggregates inside the argument of an aggregate, which
has to be a node. -/
def nestedIn (outer : Node) : Except Fault (List Finding) := do
  let argument ← (outer.arg "this").searched
  return argument.aggregates.map fun _ =>
    ⟨.nestedAggregate, [.text outer.render]⟩

/-- The findings about nested aggregates of a tree. -/
def nestingOf (ast : Node) : Except Fault (List Finding) :=
  return (← ast.aggregates.mapM nestedIn).flatten

/-- The findings about nested aggregates. -/
def nestingFindings (q : Query) : Except Fault (List Finding) := do
  let found ← q.selects.mapM fun s => s.stripped.ast.toList.mapM nestingOf
  return found.flatten.flatten

/-! ### DISTINCT -/

/-- The argument of an aggregate, if it is a DISTINCT. -/
def distinctArgument? (n : Node) : Option Node :=
  (n.child? "this").filter (·.kind == .distinct)

/-- The uses of one aggregate with DISTINCT in a select. -/
def distinctUses (function : Aggregate) (s : Select) : List Node :=
  s.ast.toList.flatMap fun ast =>
    (ast.findAll (· == .aggregate function)).filter fun n =>
      (distinctArgument? n).isSome

/-- Whether a solution uses an aggregate with DISTINCT. -/
def usedIn (function : Aggregate) (solutions : List Query) : Bool :=
  solutions.any fun q =>
    q.selects.any fun s => !(distinctUses function s).isEmpty

/-- The findings about one aggregate with DISTINCT in a select, unless a
solution has it too. -/
def distinctIn (function : Aggregate) (solutions : List Query) (s : Select) :
    List Finding :=
  if usedIn function solutions then []
  else (distinctUses function s).map fun n =>
    ⟨.distinctInSumOrAvg, [.text n.render]⟩

/-- The findings about sums and averages of distinct values. -/
def distinctFindings (q : Query) (solutions : List Query) : List Finding :=
  q.selects.flatMap fun s =>
    distinctIn .sum solutions s ++ distinctIn .avg solutions s

/-- The column at which a column node points. -/
def columnAt (n : Node) : ColumnAt := ⟨n.facts.realName, n.facts.tableIndex⟩

/-- Whether distinct values of an expression are the same as all its values. -/
def needsNoDistinct (b : QueryBlock) (n : Node) : Bool :=
  match n.kind with
  | .literal => true
  | .column =>
    b.constraints.any fun c => c.kind == .unique && c.isOn [columnAt n]
  | _ => false

/-- The findings about one aggregate: one in all if it is a least or a greatest
value, else one for each argument that needs no DISTINCT. -/
def needlessIn (b : QueryBlock) (n : Node) : Except Fault (List Finding) :=
  match distinctArgument? n with
  | none => .ok []
  | some argument =>
    let finding : Finding := ⟨.distinctInAggregate, [.text n.render]⟩
    if n.kind == .aggregate .min || n.kind == .aggregate .max then .ok [finding]
    else
      return (((← argument.expressions).filterMap Arg.node?).filter
        (needsNoDistinct b)).map fun _ => finding

/-- The findings about needless DISTINCT in a block. -/
def needlessInBlock (b : QueryBlock) : Except Fault (List Finding) :=
  return (← (b.ast.toList.flatMap Node.aggregates).mapM (needlessIn b)).flatten

/-- The findings about needless DISTINCT in aggregates. -/
def needlessFindings (q : Query) : Except Fault (List Finding) :=
  return (← q.selects.mapM (needlessInBlock ·.stripped)).flatten

end SqlDiagnosis.Aggregate
