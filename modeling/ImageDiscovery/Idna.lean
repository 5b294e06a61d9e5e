import ImageDiscovery.Idna.Label
import ImageDiscovery.Idna.Punycode

/-!
# Idna — names of hosts in all scripts

A name is made of labels between full stops.  On the wire a label is ASCII: one that is not is marked
with `xn--` and written in punycode.  `Idna.toAscii` and `Idna.toUnicode` convert names, and both check
every label.
-/

namespace ImageDiscovery

namespace Idna

def mark : Text := "xn--"

/-- Full stops, also those of East Asian scripts. -/
def isStop (p : CodePoint) : Bool :=
  p = .char '.' || p = .char '\u3002' || p = .char '\uFF0E' || p = .char '\uFF61'

def labelsOf (name : Text) : List Text :=
  Text.split (.char '.') (name.map fun p => if isStop p then .char '.' else p)

def checked (label : Text) : Except Problem Text :=
  match checkLabel label with
  | none => .ok label
  | some problem => .error problem

def decoded (encoded : Text) : Except Problem Text :=
  if encoded.isEmpty then .error .nothingEncoded
  else if encoded.getLast? = some hyphen then .error .encodedHyphen
  else
    match (Text.toChars? encoded).bind Punycode.decode? with
    | none => .error .badEncoding
    | some points => .ok (points.filterMap CodePoint.ofNat?)

/-- A label as it is read by people; ASCII is read in lower case. -/
def labelToUnicode (label : Text) : Except Problem Text :=
  if !label.isAscii then checked label
  else
    let label := label.asciiLower
    if mark.isPrefixOf label then (decoded (label.drop mark.length)).bind checked
    else checked label

def labelToAscii (label : Text) : Except Problem Text := do
  let encoded ←
    if label.isAscii then (labelToUnicode label).map fun _ => label
    else (checked label).map fun label =>
      mark ++ Text.ofChars (Punycode.encode (label.map CodePoint.toNat))
  if maxLabel < encoded.length then .error .longLabel else .ok encoded

/-- Converts each label; a full stop may end the name. -/
def convert (label : Text → Except Problem Text) (name : Text) : Except Problem (Text × Bool) :=
  let labels := labelsOf name
  if labels = [[]] then .error .emptyName
  else
    let stops := labels.getLast? = some []
    let labels := if stops then labels.dropLast else labels
    (labels.mapM label).map fun converted =>
      (Text.join "." (if stops then converted ++ [[]] else converted), stops)

def toAscii (name : Text) : Except Problem Text := do
  let (converted, stops) ← convert labelToAscii name
  if maxName + (if stops then 1 else 0) < converted.length then .error .longName else .ok converted

def toUnicode (name : Text) : Except Problem Text := (convert labelToUnicode name).map Prod.fst

end Idna

end ImageDiscovery
