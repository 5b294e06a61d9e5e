import ImageDiscovery.Json.Basic
import ImageDiscovery.Text.Utf8

/-!
# Json reader — documents from text and from bytes

The grammar is that of RFC 8259, and `NaN`, `Infinity` and `-Infinity` are numbers too.  Nothing
may follow a document but white space.  `Json.ofBytes?` reads what came over the wire: UTF-8
throughout, no half of a surrogate pair by itself and no more than two hundred levels, and all members
are told as they came; `Json.ofText?` takes a text as it is, and of members with one name the first
place and the last value count.
-/

namespace ImageDiscovery

namespace Json

/-- What a reader accepts beyond the grammar. -/
structure Reading where
  /-- Are escapes for half of a surrogate pair accepted by themselves? -/
  loneSurrogates : Bool
  /-- The most digits of a whole number. -/
  maxDigits : Nat
  /-- Are members kept whose names come again? -/
  repeats : Bool

/-- The members of an object, of those that were read. -/
def Reading.members (r : Reading) (read : List (Text × Json)) : List (Text × Json) :=
  if r.repeats then read else (Mapping.ofList read).toList

def isSpace (p : CodePoint) : Bool :=
  p = .char ' ' || p = .char '\t' || p = .char '\n' || p = .char '\r'

def skipSpace (t : Text) : Text := t.dropWhile isSpace

/-! ## Texts -/

/-- The number that four hexadecimal digits write, and what follows. -/
def hex4? : Text → Option (Nat × Text)
  | a :: b :: c :: d :: rest => do
    let a ← a.hexValue?
    let b ← b.hexValue?
    let c ← c.hexValue?
    let d ← d.hexValue?
    return (((a * 16 + b) * 16 + c) * 16 + d, rest)
  | _ => none

/-- The code point of an escape that has one letter. -/
def escaped? (p : CodePoint) : Option CodePoint :=
  match p with
  | .char 'b' => some (.char '\x08')
  | .char 'f' => some (.char '\x0c')
  | .char 'n' => some (.char '\n')
  | .char 'r' => some (.char '\r')
  | .char 't' => some (.char '\t')
  | .char '"' | .char '\\' | .char '/' => some p
  | _ => none

/-- A UTF-16 unit as a code point, joined to a high half that `before` holds.  The result is what
is now known to stand in the text, and the half that waits for its other one. -/
def joinUnit (before : Option Nat) (unit : Nat) : Text × Option Nat :=
  match before with
  | some high =>
    if 0xDC00 ≤ unit ∧ unit < 0xE000 then
      ((CodePoint.ofNat? (0x10000 + (high - 0xD800) * 0x400 + (unit - 0xDC00))).toList, none)
    else
      let (known, waiting) := alone unit
      ((CodePoint.ofNat? high).toList ++ known, waiting)
  | none => alone unit
where
  alone (unit : Nat) : Text × Option Nat :=
    if 0xD800 ≤ unit ∧ unit < 0xDC00 then ([], some unit) else ((CodePoint.ofNat? unit).toList, none)

/-- The rest of a text up to its closing quote, and what follows.  `waiting` is a high half that
an escape just brought. -/
def readQuoted (waiting : Option Nat) (fuel : Nat) (t : Text) : Option (Text × Text) :=
  let before := (waiting.bind CodePoint.ofNat?).toList
  match fuel, t with
  | 0, _ | _, [] => none
  | fuel + 1, p :: rest =>
    if p = .char '"' then some (before, rest)
    else if p = .char '\\' then
      match rest with
      | .char 'u' :: digits => do
        let (unit, rest) ← hex4? digits
        let (known, waiting) := joinUnit waiting unit
        let (content, rest) ← readQuoted waiting fuel rest
        return (known ++ content, rest)
      | e :: rest => do
        let c ← escaped? e
        let (content, rest) ← readQuoted none fuel rest
        return (before ++ c :: content, rest)
      | [] => none
    else if p.toNat < 0x20 then none
    else do
      let (content, rest) ← readQuoted none fuel rest
      return (before ++ p :: content, rest)

def readText (r : Reading) (t : Text) : Option (Text × Text) := do
  let (content, rest) ← readQuoted none (t.length + 1) t
  if r.loneSurrogates || Text.Encodable content then return (content, rest) else none

/-! ## Numbers -/

def takeDigits (t : Text) : List Char × Text :=
  ((Text.toChars? (t.takeWhile CodePoint.isDigit)).getD [], t.dropWhile CodePoint.isDigit)

def digits? (t : Text) : Option (List Char × Text) :=
  let (digits, rest) := takeDigits t
  if digits.isEmpty then none else some (digits, rest)

def readExponent? : Text → Option (Option Int × Text)
  | .char e :: rest =>
    if e = 'e' ∨ e = 'E' then
      match rest with
      | .char '-' :: rest => (digits? rest).map fun (ds, rest) => (some (-(Numeral.value ds : Int)), rest)
      | .char '+' :: rest => (digits? rest).map fun (ds, rest) => (some (Numeral.value ds : Int), rest)
      | rest => (digits? rest).map fun (ds, rest) => (some (Numeral.value ds : Int), rest)
    else some (none, .char e :: rest)
  | rest => some (none, rest)

/-- A number without its sign: digits without a zero in front, then a fraction and an exponent. -/
def readNumber (r : Reading) (negative : Bool) (t : Text) : Option (Json × Text) := do
  let (whole, rest) ← digits? t
  if whole.head? = some '0' ∧ whole.length ≠ 1 then none
  else if r.maxDigits < whole.length + negative.toNat then none
  else
    let (fraction, rest) ← match rest with
      | .char '.' :: rest => (digits? rest).map fun (ds, rest) => (some ds, rest)
      | rest => some (none, rest)
    let (exponent, rest) ← readExponent? rest
    if fraction.isNone ∧ exponent.isNone then
      let n : Int := Numeral.value whole
      return (int (if negative then -n else n), rest)
    else
      let x := (Decimal.Numeral.mk whole (fraction.getD []) (exponent.getD 0)).toBinary64
      return (float (if negative then x.neg else x), rest)

/-! ## Values -/

/-- What follows a word that the text starts with. -/
def word? (word : String) (t : Text) : Option Text :=
  if (Text.ofString word).isPrefixOf t then some (t.drop word.length) else none

def readLeaf (r : Reading) (t : Text) : Option (Json × Text) :=
  match t with
  | .char '"' :: rest => (readText r rest).map fun (content, rest) => (.text content, rest)
  | .char 'n' :: _ => (word? "null" t).map fun rest => (null, rest)
  | .char 't' :: _ => (word? "true" t).map fun rest => (bool true, rest)
  | .char 'f' :: _ => (word? "false" t).map fun rest => (bool false, rest)
  | .char 'N' :: _ => (word? "NaN" t).map fun rest => (float .nan, rest)
  | .char 'I' :: _ => (word? "Infinity" t).map fun rest => (float .infinity, rest)
  | .char '-' :: .char 'I' :: rest =>
    (word? "Infinity" (.char 'I' :: rest)).map fun rest => (float Binary64.infinity.neg, rest)
  | .char '-' :: rest => readNumber r true rest
  | _ => readNumber r false t

/-- The items after the first one, up to the closing bracket. -/
def readItems (value : Text → Option (Json × Text)) : Nat → Text → Option (List Json × Text)
  | 0, _ => none
  | fuel + 1, t =>
    match skipSpace t with
    | .char ']' :: rest => some ([], rest)
    | .char ',' :: rest => do
      let (item, rest) ← value (skipSpace rest)
      let (items, rest) ← readItems value fuel rest
      return (item :: items, rest)
    | _ => none

def readMember (r : Reading) (value : Text → Option (Json × Text)) (t : Text) :
    Option ((Text × Json) × Text) :=
  match skipSpace t with
  | .char '"' :: rest => do
    let (key, rest) ← readText r rest
    match skipSpace rest with
    | .char ':' :: rest =>
      let (v, rest) ← value (skipSpace rest)
      return ((key, v), rest)
    | _ => none
  | _ => none

/-- The members after the first one, up to the closing brace. -/
def readMembers (r : Reading) (value : Text → Option (Json × Text)) :
    Nat → Text → Option (List (Text × Json) × Text)
  | 0, _ => none
  | fuel + 1, t =>
    match skipSpace t with
    | .char '}' :: rest => some ([], rest)
    | .char ',' :: rest => do
      let (first, rest) ← readMember r value rest
      let (members, rest) ← readMembers r value fuel rest
      return (first :: members, rest)
    | _ => none

/-- A value and what follows.  Items and members may be nested `levels` deep. -/
def readValue (r : Reading) : (levels : Nat) → Text → Option (Json × Text)
  | 0, _ => none
  | levels + 1, t =>
    match t with
    | .char '[' :: rest =>
      match skipSpace rest with
      | .char ']' :: rest => some (array [], rest)
      | rest => do
        let (item, rest) ← readValue r levels rest
        let (items, rest) ← readItems (readValue r levels) (rest.length + 1) rest
        return (array (item :: items), rest)
    | .char '{' :: rest =>
      match skipSpace rest with
      | .char '}' :: rest => some (object [], rest)
      | rest => do
        let (first, rest) ← readMember r (readValue r levels) rest
        let (members, rest) ← readMembers r (readValue r levels) (rest.length + 1) rest
        return (object (r.members (first :: members)), rest)
    | t => readLeaf r t

/-- A whole document, with white space around it. -/
def read (r : Reading) (levels : Nat) (t : Text) : Option Json :=
  match readValue r levels (skipSpace t) with
  | some (value, rest) => if (skipSpace rest).isEmpty then some value else none
  | none => none

def ofText? (t : Text) : Option Json := read ⟨true, Numeral.maxDigits, false⟩ (t.length + 1) t

/-- The deepest nesting of a document that came over the wire. -/
def maxLevels : Nat := 200

def ofBytes? (bytes : Bytes) : Option Json :=
  (Utf8.decode? bytes).bind fun cs =>
    read ⟨false, Numeral.maxDigits, true⟩ (maxLevels + 1) (Text.ofChars cs)

end Json

end ImageDiscovery
