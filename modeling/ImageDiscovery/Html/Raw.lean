import ImageDiscovery.Html.Tag

/-!
# Raw — elements whose content is no markup

What stands in a script, a style sheet, a title and a few more elements is text up to the closing tag
of that element.  A script may hold a comment, and within that another script, whose closing tag
then does not count.
-/

namespace ImageDiscovery

namespace Html

/-- Elements that hold text only. -/
def rawNames : List String :=
  ["script", "style", "title", "textarea", "xmp", "iframe", "noembed", "noframes"]

/-- The element that takes in the rest of the page. -/
def plainName : String := "plaintext"

/-- How deep a script stands in comments and scripts. -/
inductive ScriptLevel where
  | script
  | comment
  | inner
deriving DecidableEq

/-- Where in raw text the reader stands. -/
inductive RawPlace where
  /-- In the text, after so many dashes, of which two count. -/
  | text (dashes : Nat)
  /-- Behind `<`. -/
  | lessThan
  /-- Behind `<!`. -/
  | bang
  /-- Behind `<!-`. -/
  | bangDash
  /-- Behind `</` and letters, kept backwards. -/
  | closing (letters : List Char)
  /-- Behind `<` and letters, kept backwards. -/
  | opening (letters : List Char)

/-- The content of a raw element up to some place. -/
structure Raw where
  element : List Char
  level : ScriptLevel := .script
  place : RawPlace := .text 0

/-- Raw text goes on, or the element's closing tag has begun, up to the end of its name. -/
inductive RawStep where
  | more (raw : Raw)
  | closes

namespace Raw

def scriptName : List Char := "script".toList

def opensComments (r : Raw) : Bool := r.element = scriptName && r.level = .script

/-- The step within the text, after some dashes. -/
def textStep (r : Raw) (dashes : Nat) (c : Char) : Raw :=
  if c = '<' then { r with place := .lessThan }
  else if c = '-' then { r with place := .text (min 2 (dashes + 1)) }
  else if c = '>' && dashes = 2 then { r with level := .script, place := .text 0 }
  else { r with place := .text 0 }

/-- Can a character stand behind the name of a tag? -/
def endsName (c : Char) : Bool := isBlank c || c = '/' || c = '>'

def step (r : Raw) (c : Char) : RawStep :=
  match r.place with
  | .text dashes => .more (r.textStep dashes c)
  | .lessThan =>
    if c = '/' then .more { r with place := .closing [] }
    else if c = '!' && r.opensComments then .more { r with place := .bang }
    else if c.isAlpha && r.level = .comment then .more { r with place := .opening [c.toLower] }
    else .more (r.textStep 0 c)
  | .bang => .more (if c = '-' then { r with place := .bangDash } else r.textStep 0 c)
  | .bangDash =>
    .more (if c = '-' then { r with level := .comment, place := .text 2 } else r.textStep 0 c)
  | .closing letters =>
    if c.isAlpha then .more { r with place := .closing (c.toLower :: letters) }
    else if endsName c && letters.reverse = r.element then
      if r.level = .inner then .more { r with level := .comment, place := .text 0 } else .closes
    else .more (r.textStep 0 c)
  | .opening letters =>
    if c.isAlpha then .more { r with place := .opening (c.toLower :: letters) }
    else if endsName c && letters.reverse = scriptName then
      .more { r with level := .inner, place := .text 0 }
    else .more (r.textStep 0 c)

end Raw

end Html

end ImageDiscovery
