import ImageDiscovery.Text.Printable

/-!
# Quoted — a text shown between quotes

Messages show the texts they speak about between quotes, with every code point that is not
printable written as an escape, so that the reader sees where the text starts and ends.
-/

namespace ImageDiscovery

namespace Quoted

def hexDigits (n width : Nat) : Text :=
  let digits := Nat.toDigits 16 n
  Text.ofChars (List.replicate (width - digits.length) '0' ++ digits)

/-- The shortest of the escapes with two, four and eight digits that holds the code point. -/
def numericEscape (n : Nat) : Text :=
  if n < 0x100 then "\\x" ++ hexDigits n 2
  else if n < 0x10000 then "\\u" ++ hexDigits n 4
  else "\\U" ++ hexDigits n 8

def codePoint (quote : Char) (p : CodePoint) : Text :=
  if p = .char quote ∨ p = .char '\\' then [.char '\\', p]
  else if p = .char '\t' then "\\t"
  else if p = .char '\n' then "\\n"
  else if p = .char '\r' then "\\r"
  else if p.isPrintable then [p]
  else numericEscape p.toNat

/-- Single quotes, unless the text has a single quote and no double one. -/
def quoteOf (t : Text) : Char :=
  if .char '\'' ∈ t ∧ .char '"' ∉ t then '"' else '\''

end Quoted

/-- A text between quotes, with escapes for what would not show. -/
def Text.quoted (t : Text) : Text :=
  let quote := Quoted.quoteOf t
  .char quote :: t.flatMap (Quoted.codePoint quote) ++ [.char quote]

def Text.quotedList (ts : List Text) : Text :=
  "[" ++ Text.join ", " (ts.map Text.quoted) ++ "]"

end ImageDiscovery
