/-!
# Nesting — which elements are open

A page need not write every tag.  `html`, `head`, `body` and `p` are opened where they are missing,
elements that cannot hold what begins are closed before it, and a closing tag closes what is still
open inside its element.  What matters here is how deep elements nest: a page that goes too deep is
not read any further.
-/

namespace ImageDiscovery

namespace Html

/-- The open elements, the innermost first, and what was met before. -/
structure Nesting where
  opened : List String := []
  sawHead : Bool := false
  sawBody : Bool := false
  /-- How many misplaced tags wait for their closing tags to be ignored too. -/
  ignored : Nat := 0
  /-- Set for good when elements nest too deep. -/
  halted : Bool := false

namespace Nesting

/-- No more elements than this may be open at one time. -/
def maxDepth : Nat := 256

def push (n : Nesting) (name : String) : Nesting :=
  if maxDepth ≤ n.opened.length then { n with halted := true }
  else
    { n with
      opened := name :: n.opened
      sawHead := n.sawHead || name == "head" || name == "body"
      sawBody := n.sawBody || name == "body" }

def pop (n : Nesting) : Nesting := { n with opened := n.opened.drop 1 }

/-! ## What begins closes what cannot hold it -/

def listParts : List String := ["dd", "dl", "dt", "form", "ul"]

def tableParts : List String := ["col", "colgroup", "tbody", "tfoot", "thead", "tr"]

def headings : List String := ["h1", "h2", "h3", "h4", "h5", "h6"]

/-- Elements that may not stand in the head of a page. -/
def bodyContent : List String :=
  ["a", "abbr", "acronym", "address", "b", "bdo", "big", "blockquote", "body", "br", "center",
    "cite", "code", "dd", "dfn", "dir", "div", "dl", "dt", "em", "fieldset", "font", "form",
    "frameset", "hr", "i", "iframe", "img", "kbd", "li", "listing", "map", "menu", "ol", "p", "pre",
    "q", "s", "samp", "small", "span", "strike", "strong", "sub", "sup", "table", "tt", "u", "ul",
    "var", "xmp"] ++ headings

/-- Elements that end a paragraph. -/
def blocks : List String :=
  ["address", "blockquote", "body", "caption", "center", "col", "colgroup", "dd", "dir", "div",
    "dl", "dt", "frameset", "head", "hr", "li", "listing", "menu", "ol", "p", "pre", "table",
    "tbody", "td", "tfoot", "th", "title", "tr", "ul", "xmp"] ++ headings

def preformattedEnds : List String := ["dd", "dl", "dt", "fieldset", "form", "li", "table", "ul"]

/-- An element and what cannot begin inside it. -/
def closers : List (String × List String) :=
  [("a", ["a", "fieldset", "table", "td", "th"]),
    ("address", ["dd", "dl", "dt", "form", "li", "ul"]),
    ("b", ["center", "p", "td", "th"]),
    ("big", ["p"]),
    ("caption", tableParts),
    ("col", tableParts),
    ("colgroup", ["colgroup", "tbody", "tfoot", "thead", "tr"]),
    ("dd", ["dt"]),
    ("dir", listParts),
    ("dl", ["form", "li"]),
    ("dt", ["dd", "dl"]),
    ("font", ["center", "td", "th"]),
    ("form", ["form"])]
  ++ headings.map (fun h => (h, ["fieldset", "form", "li", "p", "table"]))
  ++ [("head", bodyContent),
    ("hr", ["form"]),
    ("i", ["center"]),
    ("legend", ["fieldset"]),
    ("li", ["li"]),
    ("link", ["body", "frameset"]),
    ("listing", preformattedEnds),
    ("menu", listParts),
    ("ol", ["form"]),
    ("option", ["optgroup", "option"]),
    ("p", blocks),
    ("pre", preformattedEnds),
    ("s", ["p"]),
    ("script", ["noscript"]),
    ("small", ["p"]),
    ("span", ["td", "th"]),
    ("strike", ["p"]),
    ("style", ["body", "frameset"]),
    ("tbody", ["tbody", "tfoot"]),
    ("td", ["tbody", "td", "tfoot", "th", "tr"]),
    ("tfoot", ["tbody"]),
    ("th", ["tbody", "td", "tfoot", "th", "tr"]),
    ("thead", ["tbody", "tfoot"]),
    ("title", ["body", "frameset"]),
    ("tr", ["tbody", "tfoot", "tr"]),
    ("tt", ["p"]),
    ("u", ["p", "td", "th"]),
    ("ul", ["address", "form", "menu", "pre"]),
    ("xmp", preformattedEnds)]

/-- Does an open element end where another begins? -/
def closes (name opened : String) : Bool := ((closers.lookup opened).getD []).contains name

def closeFor (n : Nesting) (name : String) : Nesting :=
  { n with opened := n.opened.dropWhile (closes name) }

/-! ## What must be around an element is opened -/

/-- Elements that belong into the head of a page. -/
def headContent : List String := ["script", "style", "meta", "link", "title", "base"]

/-- Elements that need no body around them. -/
def frames : List String := ["noframes", "frame", "frameset"]

def imply (n : Nesting) (name : String) : Nesting :=
  if name == "html" then n
  else
    let n := if n.opened.isEmpty then n.push "html" else n
    if name == "body" || name == "head" then n
    else if n.opened.length ≤ 1 && headContent.contains name then
      if n.sawHead then n else n.push "head"
    else if frames.contains name || n.sawBody || n.opened.contains "body" || n.opened.contains "head" then
      n
    else n.push "body"

/-- A text begins: it may not stand in the head or outside of everything. -/
def text (n : Nesting) : Nesting :=
  let n := if n.opened.head? = some "head" then n.closeFor "p" else n
  if n.opened.isEmpty || n.opened.head? = some "html" then
    ((n.closeFor "p").imply "p").push "p"
  else n

/-! ## Tags -/

def voids : List String :=
  ["area", "base", "basefont", "br", "col", "frame", "hr", "img", "input", "isindex", "link",
    "meta", "param"]

/-- May an element not begin here, because a page has it once and in its place? -/
def misplaced (n : Nesting) (name : String) : Bool :=
  (name == "html" && !n.opened.isEmpty) || (name == "head" && n.opened.length != 1)
    || (name == "body" && n.opened.contains "body")

/-- An element begins.  The result tells whether it does so, and whether it is open now. -/
def enter (n : Nesting) (name : String) (closed : Bool) : Nesting × Bool :=
  let n := (n.closeFor name).imply name
  if n.halted then (n, false)
  else if n.misplaced name then ({ n with ignored := n.ignored + 1 }, false)
  else
    let n := n.push name
    if n.halted then (n, false)
    else (if closed || voids.contains name then n.pop else n, true)

/-- A closing tag does not reach beyond elements of a higher rank than its own. -/
def rank (name : String) : Nat :=
  match name with
  | "div" => 150
  | "td" | "th" => 160
  | "tr" => 170
  | "thead" | "tbody" | "tfoot" => 180
  | "table" => 190
  | "head" | "body" => 200
  | "html" => 220
  | _ => 100

def leave (n : Nesting) (name : String) : Nesting :=
  if 0 < n.ignored && (name == "html" || name == "body" || name == "head") then
    { n with ignored := n.ignored - 1 }
  else
    let inner := n.opened.takeWhile (· != name)
    if n.opened.contains name && inner.all (fun other => rank other ≤ rank name) then
      { n with opened := n.opened.drop (inner.length + 1) }
    else n

end Nesting

end Html

end ImageDiscovery
