import SqlDiagnosis.Finding

/-!
# Clauses

The clauses of a select come in a fixed order and once each. They are read off
the keywords among its tokens, without its subqueries.
-/

namespace SqlDiagnosis

/-- The clauses of a select, in their order. -/
inductive Clause where
  | select
  | source
  | filter
  | groupBy
  | having
  | orderBy
  | limit
  | offset
deriving DecidableEq, Repr

namespace Clause

/-- The keyword of a clause. -/
def keyword : Clause → String
  | select => "SELECT"
  | source => "FROM"
  | filter => "WHERE"
  | groupBy => "GROUP BY"
  | having => "HAVING"
  | orderBy => "ORDER BY"
  | limit => "LIMIT"
  | offset => "OFFSET"

/-- All clauses in their order. -/
def order : List Clause :=
  [select, source, filter, groupBy, having, orderBy, limit, offset]

/-- The place of a clause in the order. -/
def rank (c : Clause) : Nat := order.idxOf c

/-- The clause of a keyword in upper case. -/
def ofKeyword? (word : String) : Option Clause :=
  order.find? (·.keyword == word)

/-! ### Reading clauses off tokens -/

/-- The clause that a token opens, where SELECT may be given as a statement or
as a keyword. -/
def opened? (t : Token) : Option Clause :=
  let word := Text.upper t.text
  if t.hasType .dml && word == select.keyword then some select
  else if t.hasType .keyword then ofKeyword? word
  else none

/-- The clause that a token stands for in the order of clauses: every statement
counts as SELECT, and a keyword as one of the others. -/
def ordered? (t : Token) : Option Clause :=
  if t.hasType .dml then some select
  else if t.hasType .keyword then
    (ofKeyword? (Text.upper t.text)).filter (· != select)
  else none

/-! ### Findings -/

/-- The number of WHERE keywords. -/
def whereCount (tokens : List Token) : Nat :=
  tokens.countP (·.isKeyword filter.keyword)

/-- The findings about selects with several WHERE clauses. -/
def whereFindings (q : Query) : List Finding :=
  q.selects.filterMap fun s =>
    let count := whereCount s.stripped.tokens
    if 1 < count then some ⟨.whereTwice, [.text s.sql, .int count]⟩ else none

/-- The findings about selects that lack a FROM clause although they return
something that is not constant. -/
def fromFindings (q : Query) : List Finding :=
  q.selects.filterMap fun s =>
    if s.stripped.tokens.any (·.isKeyword source.keyword) then none
    else if s.stripped.output.columns.any (!·.isConstant) then
      some ⟨.missingFrom, [.text s.sql]⟩
    else none

/-- The clauses that are opened several times and how often, in the order of
their first occurrence. -/
def repeated (clauses : List Clause) : List (Clause × Nat) :=
  (clauses.eraseDups.map fun c => (c, clauses.count c)).filter (1 < ·.2)

/-- The findings about repeated clauses. -/
def repetitionFindings (q : Query) : List Finding :=
  q.selects.flatMap fun s =>
    (repeated (s.stripped.tokens.filterMap opened?)).map fun (c, count) =>
      ⟨.duplicateClause, [.text c.keyword, .int count]⟩

/-- Whether no clause comes directly after one that it has to precede. -/
def inOrder : List Clause → Bool
  | c :: d :: rest => c.rank ≤ d.rank && inOrder (d :: rest)
  | _ => true

/-- The findings about clauses in a wrong order. -/
def orderFindings (q : Query) : List Finding :=
  q.selects.filterMap fun s =>
    let clauses := s.stripped.tokens.filterMap ordered?
    if inOrder clauses then none
    else some ⟨.keywordOrder, [.value (.list (clauses.map (.text ·.keyword)))]⟩

end Clause

end SqlDiagnosis
