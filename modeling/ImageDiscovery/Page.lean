import ImageDiscovery.Text.Basic

/-!
# Page — a discovery page for given declarations

`Page.ofDeclarations` writes an HTML page that declares what it is given.  Attribute values are
escaped, so that reading the page gives them back.
-/

namespace ImageDiscovery

namespace Page

/-- The form that a code point has within an attribute value. -/
def escaped (p : CodePoint) : Text :=
  match p with
  | .char '&' => "&amp;"
  | .char '<' => "&lt;"
  | .char '>' => "&gt;"
  | .char '"' => "&quot;"
  | .char '\'' => "&#x27;"
  | p => [p]

def escape (t : Text) : Text := t.flatMap escaped

/-- A declaration as it is written: its name, prefix and template need not be valid. -/
structure Entry where
  name : Text
  scope : Text
  template : Text
deriving DecidableEq

def line (e : Entry) : Text :=
  "    <meta name=\"" ++ escape e.name ++ "\" content=\"" ++ escape e.scope ++ " "
    ++ escape e.template ++ "\">"

def head : Text := "<!DOCTYPE html>\n<html>\n  <head>\n"

def foot : Text := "\n  </head>\n</html>\n"

def ofDeclarations (entries : List Entry) : Text :=
  head ++ Text.join "\n" (entries.map line) ++ foot

end Page

end ImageDiscovery
