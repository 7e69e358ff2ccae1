import SqlDiagnosis.Text.Case

/-!
# Tokens

A token is a piece of query text with a type. Types form a tree and are given by
their path from its root: `Keyword` is a type, and `Keyword.DML` is one below
it. A token may have no type.
-/

namespace SqlDiagnosis

/-- A token type, by its path from the root. -/
structure TokenType where
  path : List String
deriving DecidableEq, Repr

namespace TokenType

def keyword : TokenType := ⟨["Keyword"]⟩
def dml : TokenType := ⟨["Keyword", "DML"]⟩
def punctuation : TokenType := ⟨["Punctuation"]⟩
def name : TokenType := ⟨["Name"]⟩
def error : TokenType := ⟨["Error"]⟩
def operator : TokenType := ⟨["Operator"]⟩
def whitespace : TokenType := ⟨["Text", "Whitespace"]⟩
def newline : TokenType := ⟨["Text", "Whitespace", "Newline"]⟩

/-- Whether a type is another one or lies below it. -/
def within (t above : TokenType) : Bool := above.path.isPrefixOf t.path

end TokenType

/-- A piece of query text with its type. -/
structure Token where
  type : Option TokenType
  text : String
deriving DecidableEq, Repr

namespace Token

/-- Whether the token has exactly this type. -/
def hasType (t : Token) (type : TokenType) : Bool := t.type == some type

/-- Whether the token has this type or one below it. -/
def isWithin (t : Token) (type : TokenType) : Bool := t.type.any (·.within type)

/-- Whether the token is a blank or a line end. -/
def isBlank (t : Token) : Bool := t.hasType .whitespace || t.hasType .newline

/-- Whether the token is a semicolon. -/
def isSemicolon (t : Token) : Bool := t.hasType .punctuation && t.text == ";"

/-- Whether the token is this keyword, given in upper case. -/
def isKeyword (t : Token) (word : String) : Bool :=
  t.hasType .keyword && Text.upper t.text == word

end Token

end SqlDiagnosis
