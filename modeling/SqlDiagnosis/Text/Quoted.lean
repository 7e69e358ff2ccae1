import SqlDiagnosis.Text.Printable

/-!
# Quoted text

Text inside a printed value stands between quotes. Single quotes are preferred;
double quotes are taken when the text has a single quote and no double one. The
chosen quote and the backslash are escaped, tab and line ends have letters, and
characters that cannot be shown are given by their code in two, four or eight
hexadecimal digits.
-/

namespace SqlDiagnosis.Text

/-- The number `n` in hexadecimal digits, padded with zeros to the given
width. -/
def hexDigits (width n : Nat) : List Char :=
  let digits := Nat.toDigits 16 n
  List.replicate (width - digits.length) '0' ++ digits

/-- The quote that stands around a text. -/
def quoteFor (cs : List Char) : Char :=
  if cs.contains '\'' && !cs.contains '"' then '"' else '\''

/-- One character inside quoted text. -/
def quoteChar (quote c : Char) : List Char :=
  if c == quote || c == '\\' then ['\\', c]
  else if c == '\t' then ['\\', 't']
  else if c == '\n' then ['\\', 'n']
  else if c == '\r' then ['\\', 'r']
  else if isPrintable c then [c]
  else if c.toNat < 0x100 then '\\' :: 'x' :: hexDigits 2 c.toNat
  else if c.toNat < 0x10000 then '\\' :: 'u' :: hexDigits 4 c.toNat
  else '\\' :: 'U' :: hexDigits 8 c.toNat

/-- A text in quotes. -/
def quotedChars (cs : List Char) : List Char :=
  quoteFor cs :: cs.flatMap (quoteChar (quoteFor cs)) ++ [quoteFor cs]

/-- A string in quotes. -/
def quoted (s : String) : String := String.ofList (quotedChars s.toList)

end SqlDiagnosis.Text
