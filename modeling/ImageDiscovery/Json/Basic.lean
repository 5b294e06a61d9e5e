import ImageDiscovery.Decimal.Notation
import ImageDiscovery.Mapping

/-!
# Json — documents and their written form

`Json.toText` writes a document on one line and `Json.toLines` over several, both in ASCII: other
code points become escapes, those beyond U+FFFF as two of them.  The members of an object keep
their order.
-/

namespace ImageDiscovery

inductive Json where
  | null
  | bool (b : Bool)
  | int (n : Int)
  | float (x : Binary64)
  | text (t : Text)
  | array (items : List Json)
  | object (members : List (Text × Json))
deriving Inhabited

namespace Json

/-! ## Texts -/

def unitEscape (n : Nat) : Text :=
  let digits := Nat.toDigits 16 n
  "\\u" ++ Text.ofChars (List.replicate (4 - digits.length) '0' ++ digits)

def codePointForm (p : CodePoint) : Text :=
  let n := p.toNat
  if p = .char '"' then "\\\""
  else if p = .char '\\' then "\\\\"
  else if p = .char '\n' then "\\n"
  else if p = .char '\r' then "\\r"
  else if p = .char '\t' then "\\t"
  else if n = 0x8 then "\\b"
  else if n = 0xC then "\\f"
  else if 0x20 ≤ n ∧ n ≤ 0x7E then [p]
  else if n < 0x10000 then unitEscape n
  else unitEscape (0xD800 + (n - 0x10000) / 0x400) ++ unitEscape (0xDC00 + (n - 0x10000) % 0x400)

def quoted (t : Text) : Text := .char '"' :: t.flatMap codePointForm ++ [.char '"']

def floatForm (x : Binary64) : Text :=
  if x.isNaN then "NaN"
  else if x.isInfinite then (if x.isNegative then "-Infinity" else "Infinity")
  else x.toText

def member (key value : Text) : Text := quoted key ++ ": " ++ value

/-! ## Documents -/

/-- Parts on one line between brackets, with a comma and a space after all but the last. -/
def bracket (opening closing : Char) (parts : List Text) : Text :=
  .char opening :: Text.join ", " parts ++ [.char closing]

mutual

/-- A document on one line, with a space after each comma and colon. -/
def toText : Json → Text
  | null => "null"
  | bool b => if b then "true" else "false"
  | int n => Text.ofInt n
  | float x => floatForm x
  | text t => quoted t
  | array items => bracket '[' ']' (itemTexts items)
  | object members => bracket '{' '}' (memberTexts members)

def itemTexts : List Json → List Text
  | [] => []
  | item :: items => toText item :: itemTexts items

def memberTexts : List (Text × Json) → List Text
  | [] => []
  | (key, value) :: members => member key (toText value) :: memberTexts members

end

def newline (depth : Nat) : Text := .char '\n' :: List.replicate (4 * depth) (.char ' ')

/-- Parts on lines of their own between brackets; no parts stay on one line. -/
def block (depth : Nat) (opening closing : Char) (parts : List Text) : Text :=
  if parts.isEmpty then [.char opening, .char closing]
  else
    .char opening :: newline (depth + 1) ++ Text.join ("," ++ newline (depth + 1)) parts
      ++ newline depth ++ [.char closing]

mutual

/-- A document with each item and member on a line of its own, four spaces deeper each time. -/
def toLines (depth : Nat) : Json → Text
  | null => "null"
  | bool b => if b then "true" else "false"
  | int n => Text.ofInt n
  | float x => floatForm x
  | text t => quoted t
  | array items => block depth '[' ']' (itemLines (depth + 1) items)
  | object members => block depth '{' '}' (memberLines (depth + 1) members)

def itemLines (depth : Nat) : List Json → List Text
  | [] => []
  | item :: items => toLines depth item :: itemLines depth items

def memberLines (depth : Nat) : List (Text × Json) → List Text
  | [] => []
  | (key, value) :: members => member key (toLines depth value) :: memberLines depth members

end

end Json

end ImageDiscovery
