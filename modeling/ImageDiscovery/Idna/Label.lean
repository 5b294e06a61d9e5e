import ImageDiscovery.Idna.Classes
import ImageDiscovery.Text.Composed
import ImageDiscovery.Text.Quoted

/-!
# Label — one part of an internationalised name

A label is composed, has hyphens neither at its ends nor at its third and fourth place, begins with
no mark, and holds only code points that names may hold, some of them only in the right company.  If
any is written from right to left, the directions of all must go together.  `Idna.checkLabel` finds the
first rule that a label breaks.
-/

namespace ImageDiscovery

namespace Idna

/-- A rule that a label or a name breaks.  Places count from one. -/
inductive Problem where
  | emptyName
  | emptyLabel
  | longLabel
  | longName
  | notComposed
  | hyphensInside
  | hyphenAtEnd
  | markFirst
  | badPoint (point : CodePoint) (place : Nat) (label : Text)
  | badCompany (point : CodePoint) (place : Nat) (label : Text)
  | badJoiner (point : CodePoint) (place : Nat) (label : Text)
  | badFirstDirection (label : Text)
  | badDirection (place : Nat) (rightToLeft : Bool)
  | mixedDigits
  | badLastDirection
  /-- Nothing follows the mark of an ASCII form. -/
  | nothingEncoded
  | encodedHyphen
  | badEncoding
deriving DecidableEq

def pointName (p : CodePoint) : Text :=
  let digits := (Nat.toDigits 16 p.toNat).map Char.toUpper
  "U+" ++ Text.ofChars (List.replicate (4 - digits.length) '0' ++ digits)

def Problem.message : Problem → Text
  | .emptyName => "Empty domain"
  | .emptyLabel => "Empty Label"
  | .longLabel => "Label too long"
  | .longName => "Domain too long"
  | .notComposed => "Label must be in Normalization Form C"
  | .hyphensInside => "Label has disallowed hyphens in 3rd and 4th position"
  | .hyphenAtEnd => "Label must not start or end with a hyphen"
  | .markFirst => "Label begins with an illegal combining character"
  | .badPoint p place label =>
    "Codepoint " ++ pointName p ++ " at position " ++ Text.ofNat place ++ " of " ++ label.quoted
      ++ " not allowed"
  | .badCompany p place label =>
    "Codepoint " ++ pointName p ++ " not allowed" ++ atPlace place label
  | .badJoiner p place label =>
    "Unknown codepoint adjacent to joiner " ++ pointName p ++ atPlace place label
  | .badFirstDirection label =>
    "First codepoint in label " ++ label.quoted ++ " must be directionality L, R or AL"
  | .badDirection place rightToLeft =>
    "Invalid direction for codepoint at position " ++ Text.ofNat place ++ " in a "
      ++ (if rightToLeft then "right-to-left" else "left-to-right") ++ " label"
  | .mixedDigits => "Can not mix numeral types in a right-to-left label"
  | .badLastDirection => "Label ends with illegal codepoint directionality"
  | .nothingEncoded => "Malformed A-label, no Punycode eligible content found"
  | .encodedHyphen => "A-label must not end with a hyphen"
  | .badEncoding => "Invalid A-label"
where
  atPlace (place : Nat) (label : Text) : Text :=
    " at position " ++ Text.ofNat place ++ " in " ++ label.quoted

/-- The most octets of a label in ASCII. -/
def maxLabel : Nat := 63

/-- The most octets of a name, without the full stop that may end it. -/
def maxName : Nat := 253

def hyphen : CodePoint := .char '-'

/-! ## Code points that need company -/

/-- Does the last letter of a text, read backwards, join to what follows? -/
def joinsOn (sides : List Ranges) : List Nat → Bool
  | [] => false
  | p :: rest =>
    if joinsThrough.contains p then joinsOn sides rest else sides.any fun side => side.contains p

/-- May a joiner stand between these texts, the first of them backwards? -/
def joinerFits (joiner : Nat) (before after : List Nat) : Bool :=
  (before.head?.any fun p => viramas.contains p)
    || (joiner == 0x200C && joinsOn [joinsLeft, joinsBoth] before && joinsOn [joinsRight, joinsBoth] after)

/-- May a code point that is not a joiner stand between these texts, the first of them backwards? -/
def companyFits (point : Nat) (before after : List Nat) : Bool :=
  let all := before ++ after
  if point = 0xB7 then before.head? = some 0x6C && after.head? = some 0x6C
  else if point = 0x375 then after.head?.any fun p => greek.contains p
  else if point = 0x5F3 ∨ point = 0x5F4 then before.head?.any fun p => hebrew.contains p
  else if point = 0x30FB then all.any fun p => p != 0x30FB && kanaOrHan.contains p
  else if 0x660 ≤ point ∧ point ≤ 0x669 then !all.any fun p => 0x6F0 ≤ p && p ≤ 0x6F9
  else if 0x6F0 ≤ point ∧ point ≤ 0x6F9 then !all.any fun p => 0x660 ≤ p && p ≤ 0x669
  else false

def isJoiner (n : Nat) : Bool := n == 0x200C || n == 0x200D

/-- Code points that are no joiners and that a label may hold only in some company. -/
def needsCompany (n : Nat) : Bool :=
  n == 0xB7 || n == 0x375 || n == 0x5F3 || n == 0x5F4 || n == 0x30FB || (0x660 ≤ n && n ≤ 0x669)
    || (0x6F0 ≤ n && n ≤ 0x6F9)

/-- The first code point that may not stand where it does; `before` is what was passed, backwards. -/
def checkPoints (label : Text) (before : List Nat) : Text → Option Problem
  | [] => none
  | p :: rest =>
    let n := p.toNat
    let place := before.length + 1
    let after := rest.map CodePoint.toNat
    if isValid n then checkPoints label (n :: before) rest
    else if isJoiner n then
      if joinerFits n before after then checkPoints label (n :: before) rest
      else some (.badJoiner p place label)
    else if needsCompany n then
      if companyFits n before after then checkPoints label (n :: before) rest
      else some (.badCompany p place label)
    else some (.badPoint p place label)

/-! ## Directions -/

/-- The direction in which a code point that a label may hold is written. -/
inductive Direction where
  | left
  | right
  | arabic
  | arabicDigit
  | europeanDigit
  | neutral
  | attached
deriving DecidableEq

def directionOf (n : Nat) : Direction :=
  if rightToLeft.contains n then .right
  else if arabicLetters.contains n then .arabic
  else if arabicDigits.contains n then .arabicDigit
  else if europeanDigits.contains n then .europeanDigit
  else if directionless.contains n then .neutral
  else if Idna.attached.contains n then .attached
  else .left

/-- May a label of a direction hold a code point of a direction? -/
def Direction.fits (rtl : Bool) : Direction → Bool
  | .left => !rtl
  | .right | .arabic | .arabicDigit => rtl
  | .europeanDigit | .neutral | .attached => true

/-- May a label of a direction end in a code point of a direction, but for marks after it? -/
def Direction.ends (rtl : Bool) : Direction → Bool
  | .left => !rtl
  | .right | .arabic | .arabicDigit => rtl
  | .europeanDigit => true
  | .neutral | .attached => false

/-- Goes over the directions of a label: `digits` are those met, `ending` tells whether it could end. -/
def checkDirections (rtl : Bool) (place : Nat) (digits : Option Direction) (ending : Bool) :
    List Direction → Option Problem
  | [] => if ending then none else some .badLastDirection
  | d :: rest =>
    if !d.fits rtl then some (.badDirection place rtl)
    else
      let ending := d.ends rtl || (d = .attached && ending)
      let isDigit := d = .arabicDigit || d = .europeanDigit
      if rtl && isDigit then
        if digits.any (· ≠ d) then some .mixedDigits
        else checkDirections rtl (place + 1) (some d) ending rest
      else checkDirections rtl (place + 1) digits ending rest

/-- The rule of directions is for labels in which something is written from right to left. -/
def checkBidi (label : Text) : Option Problem :=
  let directions := label.map fun p => directionOf p.toNat
  if !directions.any (fun d => d = .right || d = .arabic || d = .arabicDigit) then none
  else match directions.head? with
    | some .right | some .arabic => checkDirections true 1 none false directions
    | some .left => checkDirections false 1 none false directions
    | _ => some (.badFirstDirection label)

/-! ## All rules -/

def checkLabel (label : Text) : Option Problem :=
  match label with
  | [] => some .emptyLabel
  | first :: _ =>
    if maxName + 1 < label.length then some .longLabel
    else if !Canonical.isComposed (label.map CodePoint.toNat) then some .notComposed
    else if (label.drop 2).take 2 = [hyphen, hyphen] then some .hyphensInside
    else if first = hyphen || label.getLast? = some hyphen then some .hyphenAtEnd
    else if marks.contains first.toNat then some .markFirst
    else (checkPoints label [] label).or (checkBidi label)

end Idna

end ImageDiscovery
