import ImageDiscovery.Decimal.Shortest
import ImageDiscovery.Text.Digit

/-!
# Decimal notation — doubles as text

`Binary64.toText` writes the shortest digits, positionally from 10⁻⁴ to below 10¹⁶ and with an
exponent elsewhere.  `Binary64.ofText?` reads what people write: a sign, digits with a point, an
exponent, or the name of infinity or of no number.
-/

namespace ImageDiscovery

namespace Decimal

structure Layout where
  /-- The least and the first too large exponent that are written positionally. -/
  positionalFrom : Int
  positionalBelow : Int
  /-- The fewest digits of an exponent. -/
  exponentDigits : Nat

/-- Exponents from -4 to 15 are written positionally; others have a sign and two digits or more. -/
def layout : Layout := ⟨-4, 16, 2⟩

def pad (width : Nat) (digits : List Char) : List Char :=
  List.replicate (width - digits.length) '0' ++ digits

/-- Lays out digits whose first one stands at a power of ten. -/
def layOut (l : Layout) (digits : List Char) (exponent : Int) : List Char :=
  if l.positionalFrom ≤ exponent ∧ exponent < l.positionalBelow then
    if exponent < 0 then '0' :: '.' :: List.replicate ((-exponent).toNat - 1) '0' ++ digits
    else
      let whole := exponent.toNat + 1
      let padded := digits ++ List.replicate (whole + 1 - digits.length) '0'
      padded.take whole ++ '.' :: padded.drop whole
  else
    let point := match digits with
      | d :: rest => if rest.isEmpty then [d] else d :: '.' :: rest
      | [] => []
    point ++ 'e' :: (if exponent < 0 then '-' else '+')
      :: pad l.exponentDigits (Nat.toDigits 10 exponent.natAbs)

def dropZeros (digits : List Char) : List Char := (digits.reverse.dropWhile (· == '0')).reverse

end Decimal

namespace Binary64

def chars (x : Binary64) : List Char :=
  if x.isNaN then "nan".toList
  else
    let magnitude :=
      if x.isInfinite then "inf".toList
      else if x.significand = 0 then "0.0".toList
      else
        let (digits, power) := Shortest.digits x
        let digits := Nat.toDigits 10 digits
        Decimal.layOut Decimal.layout (Decimal.dropZeros digits) (power + digits.length - 1)
    if x.isNegative then '-' :: magnitude else magnitude

def toText (x : Binary64) : Text := Text.ofChars x.chars

end Binary64

/-! ## Reading -/

namespace Decimal

/-- The parts of a decimal numeral: digits before and after the point, and the exponent. -/
structure Numeral where
  whole : List Char
  fraction : List Char
  exponent : Int

/-- The double nearest to a numeral.  Exponents far beyond the range of doubles are not expanded. -/
def Numeral.toBinary64 (n : Numeral) : Binary64 :=
  let digits := n.whole ++ n.fraction
  let value := ImageDiscovery.Numeral.value digits
  let power := n.exponent - n.fraction.length
  if value = 0 then .zero
  else if 400 < power then .infinity
  else if power + digits.length < -400 then .zero
  else .ofRatio (value * tenTo power.toNat) (tenTo (-power).toNat)

/-- An exponent: a sign or none, then digits to the end. -/
def readExponent : List Char → Option Int
  | '-' :: rest => (unsigned rest).map fun n => -(n : Int)
  | '+' :: rest => (unsigned rest).map fun n => (n : Int)
  | rest => (unsigned rest).map fun n => (n : Int)
where
  unsigned (digits : List Char) : Option Nat :=
    if digits.isEmpty || !digits.all Char.isDigit then none
    else some (ImageDiscovery.Numeral.value digits)

/-- Digits with a point and an exponent; at least one digit stands before the exponent. -/
def readNumeral (cs : List Char) : Option Numeral := do
  let whole := cs.takeWhile Char.isDigit
  let rest := cs.dropWhile Char.isDigit
  let (fraction, rest) := match rest with
    | '.' :: rest => (rest.takeWhile Char.isDigit, rest.dropWhile Char.isDigit)
    | rest => ([], rest)
  if whole.isEmpty && fraction.isEmpty then none
  else match rest with
    | [] => some ⟨whole, fraction, 0⟩
    | e :: rest => if e = 'e' ∨ e = 'E' then return ⟨whole, fraction, ← readExponent rest⟩ else none

def readMagnitude (cs : List Char) : Option Binary64 :=
  let name := String.ofList (cs.map Char.toLower)
  if name = "inf" ∨ name = "infinity" then some .infinity
  else if name = "nan" then some .nan
  else (readNumeral cs).map Numeral.toBinary64

end Decimal

/-- Reads a number in any of its usual forms. -/
def Binary64.ofText? (t : Text) : Option Binary64 :=
  match ImageDiscovery.Numeral.dropUnderscores false t.plainNumeral with
  | some ('-' :: rest) => (Decimal.readMagnitude rest).map Binary64.neg
  | some ('+' :: rest) => Decimal.readMagnitude rest
  | some cs => Decimal.readMagnitude cs
  | none => none

end ImageDiscovery
