import ImageDiscovery.Text.Utf8

/-!
# Percent — code points that an address writes as bytes

What may not stand in a part of an address is written as its UTF-8 bytes, each as a percent sign and
two digits.  Which code points may stand is a set for each part; letters, digits and four marks may
stand everywhere, and so may a percent sign, so writing twice is writing once.
-/

namespace ImageDiscovery

namespace Percent

/-- Code points that may stand in every part of an address. -/
def isUnreserved (p : CodePoint) : Bool :=
  p.isLetter || p.isDigit || p = .char '-' || p = .char '.' || p = .char '_' || p = .char '~'

/-- A set of printable ASCII code points by those that are not in it. -/
def printableBut (excluded : String) (p : CodePoint) : Bool :=
  0x20 ≤ p.toNat && p.toNat < 0x7F && p ∉ Text.ofString excluded

def inFragment : CodePoint → Bool := printableBut " \"<>`"

def inQuery : CodePoint → Bool := printableBut " \"#<>"

def inPath : CodePoint → Bool := printableBut " \"#<>?`\x7b\x7d"

def inUserinfo : CodePoint → Bool := printableBut " \"#<>?`\x7b\x7d/;=@[\\]^|"

def inHost (p : CodePoint) : Bool :=
  isUnreserved p || p ∈ Text.ofString "!$&'()*+,;=\"`\x7b\x7d%|\\"

def hexByte (b : UInt8) : Text :=
  let digit (n : Nat) : CodePoint := .char (Nat.digitChar n).toUpper
  [digit (b.toNat / 16), digit (b.toNat % 16)]

def encodeByte (b : UInt8) : Text := .char '%' :: hexByte b

/-- The form of a code point in a part of an address. -/
def encodePoint (allowed : CodePoint → Bool) (p : CodePoint) : Text :=
  if isUnreserved p || allowed p then [p] else (Utf8.encodeNat p.toNat).flatMap encodeByte

/-- The form of a text in a part of an address. -/
def encode (allowed : CodePoint → Bool) (t : Text) : Text := t.flatMap (encodePoint allowed)

/-- The form of a text among the values of a form: all but the unreserved is written as bytes, and a
space as a plus sign. -/
def encodeValue (t : Text) : Text :=
  t.flatMap fun p => if p = .char ' ' then [.char '+'] else encodePoint (fun _ => false) p

/-! ## Reading -/

/-- The bytes that an ASCII text stands for; a percent sign without digits stands for itself. -/
def toBytes : Text → Bytes
  | [] => []
  | .char '%' :: a :: b :: rest =>
    match a.hexValue?, b.hexValue? with
    | some x, some y => UInt8.ofNat (16 * x + y) :: toBytes rest
    | _, _ => 0x25 :: toBytes (a :: b :: rest)
  | p :: rest => UInt8.ofNat p.toNat :: toBytes rest

/-- Reads a text in pieces of ASCII, of which `piece` is one, backwards. -/
def decodeFrom (piece : Text) : Text → Text
  | [] => flush piece
  | p :: rest =>
    if p.isAscii then decodeFrom (p :: piece) rest else flush piece ++ p :: decodeFrom [] rest
where
  flush (piece : Text) : Text := Text.ofChars (Utf8.decodeSubparts (toBytes piece.reverse))

/-- The text that a part of an address stands for; bytes that are no UTF-8 become U+FFFD. -/
def decode (t : Text) : Text := decodeFrom [] t

/-- The text that an ASCII value of a form stands for; `none` if its bytes are no UTF-8. -/
def decodeValue? (form : Text) : Option Text :=
  (Utf8.decode? (toBytes (form.replace (.char '+') [.char ' ']))).map Text.ofChars

end Percent

end ImageDiscovery
