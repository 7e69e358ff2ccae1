import SqlDiagnosis.Finding

/-!
# Semicolons

A query ends with one semicolon. The tokens are scanned from their end: a
semicolon that only blanks follow is kept, every other one is removed and
reported, and a query of which no semicolon is kept lacks it. All other tokens
are kept, and their texts make up the corrected query.
-/

namespace SqlDiagnosis.Semicolon

/-- What a scan from the end has found so far: the tokens kept, the number of
semicolons removed, whether the closing semicolon was seen, and whether anything
else than blanks and semicolons was seen. -/
structure Scan where
  kept : List Token
  removed : Nat
  closed : Bool
  content : Bool
deriving DecidableEq, Repr

/-- The scan of no tokens. -/
def Scan.start : Scan := ⟨[], 0, false, false⟩

/-- Scan one more token to the left. -/
def Scan.step (t : Token) (s : Scan) : Scan :=
  if t.isBlank then { s with kept := t :: s.kept }
  else if t.isSemicolon then
    if s.content || s.closed then { s with removed := s.removed + 1 }
    else { s with kept := t :: s.kept, closed := true }
  else { s with kept := t :: s.kept, content := true }

/-- The scan of all tokens. -/
def scan (tokens : List Token) : Scan := tokens.foldr Scan.step Scan.start

/-- The findings of a scan: one for each removed semicolon, and one if none was
kept. -/
def Scan.findings (s : Scan) : List Finding :=
  List.replicate s.removed ⟨.additionalSemicolon, []⟩ ++
    if s.closed then [] else [⟨.missingSemicolon, []⟩]

/-- The text of the kept tokens. -/
def Scan.text (s : Scan) : String := String.join (s.kept.map (·.text))

/-- The findings about semicolons. -/
def findings (q : Query) : List Finding := (scan q.tokens).findings

/-- The text of a query without additional semicolons. -/
def corrected (q : Query) : String := (scan q.tokens).text

end SqlDiagnosis.Semicolon
