/-!
# Tag — an opening or closing tag, read character by character

`Draft.step` takes a tag one character further.  The names of elements and attributes are read in
lower case; of attributes with one name the first counts; a quoted value ends at its quote and any
other at a blank or at the end of the tag.
-/

namespace ImageDiscovery

namespace Html

def isBlank (c : Char) : Bool := c == ' ' || c == '\n' || c == '\t' || c == '\x0c'

/-- A tag as it is written, its attribute values with their references. -/
structure Tag where
  closing : Bool
  name : List Char
  attributes : List (List Char × List Char)
  /-- Does a slash end the tag? -/
  selfClosing : Bool
deriving DecidableEq

def Tag.attribute? (t : Tag) (name : List Char) : Option (List Char) := t.attributes.lookup name

/-- A tag of which a part has been read; what is still growing is kept backwards. -/
structure Draft where
  closing : Bool
  name : List Char := []
  /-- The attributes that are complete, the last one first. -/
  attributes : List (List Char × List Char) := []
  key : List Char := []
  value : List Char := []

/-- Where in a tag the reader stands. -/
inductive TagPlace where
  | name
  /-- Where an attribute may begin. -/
  | space
  | key
  /-- Behind the name of an attribute, which may still get a value. -/
  | afterKey
  /-- Behind the equal sign. -/
  | equals
  | quoted (quote : Char)
  | unquoted
  | slash

/-- A tag goes on or is complete. -/
inductive TagStep where
  | more (draft : Draft) (place : TagPlace)
  | complete (tag : Tag)

namespace Draft

def endAttribute (d : Draft) : Draft :=
  let name := d.key.reverse
  let cleared := { d with key := [], value := [] }
  if d.key.isEmpty || d.attributes.any (fun other => other.1 = name) then cleared
  else { cleared with attributes := (name, d.value.reverse) :: d.attributes }

def beginAttribute (d : Draft) (c : Char) : Draft :=
  { d.endAttribute with key := [c.toLower] }

def complete (d : Draft) (selfClosing : Bool) : TagStep :=
  .complete ⟨d.closing, d.name.reverse, d.endAttribute.attributes.reverse, selfClosing⟩

/-- The step where an attribute may begin. -/
def spaceStep (d : Draft) (c : Char) : TagStep :=
  if isBlank c then .more d .space
  else if c = '/' then .more d .slash
  else if c = '>' then d.complete false
  else .more (d.beginAttribute c) .key

def step (d : Draft) (c : Char) : TagPlace → TagStep
  | .name =>
    if isBlank c then .more d .space
    else if c = '/' then .more d .slash
    else if c = '>' then d.complete false
    else .more { d with name := c.toLower :: d.name } .name
  | .space => d.spaceStep c
  | .key =>
    if isBlank c then .more d .afterKey
    else if c = '/' then .more d.endAttribute .slash
    else if c = '>' then d.complete false
    else if c = '=' then .more d .equals
    else .more { d with key := c.toLower :: d.key } .key
  | .afterKey =>
    if isBlank c then .more d .afterKey
    else if c = '=' then .more d .equals
    else d.endAttribute.spaceStep c
  | .equals =>
    if isBlank c then .more d .equals
    else if c = '"' || c = '\'' then .more d (.quoted c)
    else if c = '>' then d.complete false
    else .more { d with value := c :: d.value } .unquoted
  | .quoted quote =>
    if c = quote then .more d.endAttribute .space
    else .more { d with value := c :: d.value } (.quoted quote)
  | .unquoted =>
    if isBlank c then .more d.endAttribute .space
    else if c = '>' then d.complete false
    else .more { d with value := c :: d.value } .unquoted
  | .slash => if c = '>' then d.complete true else d.spaceStep c

end Draft

end Html

end ImageDiscovery
