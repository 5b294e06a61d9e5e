import ImageDiscovery.Text.Blank
import ImageDiscovery.Text.Ranges

/-!
# Digit — numerals of every script

A number may be written with the decimal digits of any script (general category Nd of Unicode 14),
with blanks around it and single underscores between digits.  `Text.plainNumeral` brings such a
numeral to ASCII; the two readers of numbers, `Text.toInt?` here and the one for decimals, start
from its result.
-/

namespace ImageDiscovery

/-- The sixty-six runs of ten digits, zero first. -/
def decimalDigits : Ranges := .ofHex
  "30-39 660-669 6F0-6F9 7C0-7C9 966-96F 9E6-9EF A66-A6F AE6-AEF B66-B6F BE6-BEF C66-C6F
   CE6-CEF D66-D6F DE6-DEF E50-E59 ED0-ED9 F20-F29 1040-1049 1090-1099 17E0-17E9 1810-1819
   1946-194F 19D0-19D9 1A80-1A89 1A90-1A99 1B50-1B59 1BB0-1BB9 1C40-1C49 1C50-1C59
   A620-A629 A8D0-A8D9 A900-A909 A9D0-A9D9 A9F0-A9F9 AA50-AA59 ABF0-ABF9 FF10-FF19
   104A0-104A9 10D30-10D39 11066-1106F 110F0-110F9 11136-1113F 111D0-111D9 112F0-112F9
   11450-11459 114D0-114D9 11650-11659 116C0-116C9 11730-11739 118E0-118E9 11950-11959
   11C50-11C59 11D50-11D59 11DA0-11DA9 16A60-16A69 16AC0-16AC9 16B50-16B59 1D7CE-1D7D7
   1D7D8-1D7E1 1D7E2-1D7EB 1D7EC-1D7F5 1D7F6-1D7FF 1E140-1E149 1E2F0-1E2F9 1E950-1E959
   1FBF0-1FBF9"

namespace CodePoint

/-- The value of a decimal digit of any script: its place in its run of ten. -/
def digitValue? (p : CodePoint) : Option Nat :=
  (decimalDigits.find? p.toNat).map fun (first, _) => p.toNat - first

/-- The blanks that may stand around a numeral: all of them but the separators U+001C to U+001F. -/
def isNumeralBlank (p : CodePoint) : Bool := p.isBlank && !(0x1C ≤ p.toNat && p.toNat ≤ 0x1F)

/-- The ASCII form of a digit of any script; ASCII stays and every other code point becomes `?`,
which no numeral holds. -/
def plainDigit (p : CodePoint) : Char :=
  match p with
  | .char c => if c.toNat < 0x80 then c else
    match p.digitValue? with
    | some d => Char.ofNat (0x30 + d)
    | none => '?'
  | .lone _ => '?'

end CodePoint

namespace Text

/-- A numeral in ASCII, without the blanks around it. -/
def plainNumeral (t : Text) : List Char :=
  (dropEndWhile (t.dropWhile CodePoint.isNumeralBlank) CodePoint.isNumeralBlank).map
    CodePoint.plainDigit

end Text

namespace Numeral

/-- Underscores may stand only between two digits; `none` if one stands elsewhere.  `after` tells
whether the character before was a digit. -/
def dropUnderscores (after : Bool) : List Char → Option (List Char)
  | [] => some []
  | '_' :: d :: rest =>
    if after && d.isDigit then (dropUnderscores true rest).map (d :: ·) else none
  | ['_'] => none
  | c :: rest => (dropUnderscores c.isDigit rest).map (c :: ·)

def value (digits : List Char) : Nat := digits.foldl (fun n d => 10 * n + (d.toNat - 0x30)) 0

def maxDigits : Nat := 4300

end Numeral

/-- Reads a whole number: a sign or none, then digits with single underscores between them. -/
def Text.toInt? (t : Text) : Option Int :=
  let (negative, digits) := match t.plainNumeral with
    | '-' :: rest => (true, rest)
    | '+' :: rest => (false, rest)
    | all => (false, all)
  match Numeral.dropUnderscores false digits with
  | some (d :: rest) =>
    if (d :: rest).all Char.isDigit && (d :: rest).length ≤ Numeral.maxDigits then
      let n := Numeral.value (d :: rest)
      some (if negative then -(n : Int) else n)
    else none
  | _ => none

end ImageDiscovery
