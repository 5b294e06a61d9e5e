import ImageDiscovery.Html.Nesting
import ImageDiscovery.Html.Raw

/-!
# Reader — the meta elements of a page

A page is read character by character, and whatever it holds, reading never fails: a tag that the end
cuts off is dropped, and what is no markup is text.  `Reader.run` goes over the characters from left
to right and only ever adds to what was found, so what follows cannot change what came before.
-/

namespace ImageDiscovery

namespace Html

/-- Where in a comment the reader stands. -/
inductive CommentPlace where
  /-- Behind `<!--`. -/
  | start
  /-- Behind `<!---`. -/
  | startDash
  /-- In the comment, after so many dashes, of which two count. -/
  | inside (dashes : Nat)
  /-- Behind two dashes and an exclamation mark. -/
  | bang

/-- One more character of a comment; `none` when it ends the comment. -/
def CommentPlace.step (c : Char) : CommentPlace → Option CommentPlace
  | .start => if c = '>' then none else some (if c = '-' then .startDash else .inside 0)
  | .startDash => if c = '>' then none else some (if c = '-' then .inside 2 else .inside 0)
  | .inside dashes =>
    if c = '-' then some (.inside (min 2 (dashes + 1)))
    else if dashes = 2 && c = '>' then none
    else if dashes = 2 && c = '!' then some .bang
    else some (.inside 0)
  | .bang => if c = '>' then none else some (if c = '-' then .inside 1 else .inside 0)

/-- What the reader is in the middle of. -/
inductive State where
  | text
  /-- Behind `<`. -/
  | lessThan
  /-- Behind `</`. -/
  | slash
  /-- Behind `<!`, or with a dash behind that. -/
  | declaration (dash : Bool)
  /-- Something that ends at the next `>`. -/
  | skipped
  | comment (place : CommentPlace)
  | tag (draft : Draft) (place : TagPlace)
  | raw (content : Raw)
  /-- Text to the end of the page. -/
  | plain

/-- How far a page was read, what is open there, and the meta elements met, the last one first. -/
structure Reader where
  state : State := .text
  nesting : Nesting := {}
  found : List Tag := []

namespace Reader

def goto (r : Reader) (state : State) : Reader := { r with state }

def wanted : String := "meta"

def contentOf (name : String) : State :=
  if name == plainName then .plain
  else if rawNames.contains name then .raw { element := name.toList }
  else .text

def take (r : Reader) (t : Tag) : Reader :=
  let name := String.ofList t.name
  if t.closing then { r with state := .text, nesting := r.nesting.leave name }
  else
    let (nesting, begins) := r.nesting.enter name t.selfClosing
    { state := if begins && !t.selfClosing then contentOf name else .text
      nesting
      found := if begins && name == wanted then t :: r.found else r.found }

def tagStep (r : Reader) (d : Draft) (place : TagPlace) (c : Char) : Reader :=
  match d.step c place with
  | .more d place => r.goto (.tag d place)
  | .complete t => r.take t

def textStep (r : Reader) (c : Char) : Reader :=
  if c = '<' then r.goto .lessThan
  else if isBlank c then r.goto .text
  else { r with state := .text, nesting := r.nesting.text }

def skipStep (r : Reader) (c : Char) : Reader := r.goto (if c = '>' then .text else .skipped)

def step (r : Reader) (c : Char) : Reader :=
  if r.nesting.halted then r
  else match r.state with
  | .text => r.textStep c
  | .lessThan =>
    if c.isAlpha then r.tagStep { closing := false } .name c
    else if c = '/' then r.goto .slash
    else if c = '!' then r.goto (.declaration false)
    else if c = '?' then r.goto .skipped
    else { r with nesting := r.nesting.text }.textStep c
  | .slash =>
    if c.isAlpha then r.tagStep { closing := true } .name c
    else r.skipStep c
  | .declaration dash =>
    if c = '-' then r.goto (if dash then .comment .start else .declaration true)
    else r.skipStep c
  | .skipped => r.skipStep c
  | .comment place =>
    match place.step c with
    | some place => r.goto (.comment place)
    | none => r.goto .text
  | .tag d place => r.tagStep d place c
  | .raw content =>
    match content.step c with
    | .more content => r.goto (.raw content)
    | .closes => r.tagStep { closing := true, name := content.element.reverse } .name c
  | .plain => r

def run (r : Reader) (cs : List Char) : Reader := cs.foldl step r

theorem run_append (r : Reader) (before after : List Char) :
    r.run (before ++ after) = (r.run before).run after := List.foldl_append

end Reader

/-- The characters of a page as they are read: lines end in a newline, however they were ended, and
U+0000 is not a character. -/
def normalized : List Char → List Char
  | [] => []
  | '\r' :: '\n' :: rest => '\n' :: normalized rest
  | '\r' :: rest => '\n' :: normalized rest
  | '\x00' :: rest => '\uFFFD' :: normalized rest
  | c :: rest => c :: normalized rest

/-- The meta elements of a page, in their order. -/
def metas (page : List Char) : List Tag := ((({} : Reader).run (normalized page)).found).reverse

end Html

end ImageDiscovery
