import ImageDiscovery.Text.Basic

/-!
# Template — texts with placeholders

A template holds placeholders such as `{name}`: a text without braces between two braces.  One pass
from left to right replaces those that have a value, so what a value brings in is never replaced
again; a placeholder without a value stays, and then the result is not resolved.
-/

namespace ImageDiscovery

namespace Template

def valueOf (pairs : List (Text × Text)) (key : Text) : Option Text :=
  (pairs.find? fun (k, _) => k = key).map Prod.snd

def placeholder (key : Text) : Text := .char '{' :: key ++ [.char '}']

/-- Replaces placeholders.  `pending` is the text since the last opening brace, backwards, as long
as no brace has come after it. -/
def renderFrom (pairs : List (Text × Text)) (pending : Option Text) : Text → Text
  | [] => match pending with
    | none => []
    | some key => .char '{' :: key.reverse
  | p :: rest =>
    match pending with
    | none =>
      if p = .char '{' then renderFrom pairs (some []) rest else p :: renderFrom pairs none rest
    | some key =>
      if p = .char '{' then .char '{' :: key.reverse ++ renderFrom pairs (some []) rest
      else if p = .char '}' then
        (valueOf pairs key.reverse).getD (placeholder key.reverse) ++ renderFrom pairs none rest
      else renderFrom pairs (some (p :: key)) rest

/-- The template with each placeholder replaced by the value of the first pair with its key. -/
def render (template : Text) (pairs : List (Text × Text)) : Text := renderFrom pairs none template

/-- Is there, on one line, an opening brace and later a closing one?  `opened` tells that the line
has had an opening one. -/
def hasExpression (opened : Bool) : Text → Bool
  | [] => false
  | p :: rest =>
    if p = .char '{' then hasExpression true rest
    else if p = .char '\n' then hasExpression false rest
    else if p = .char '}' && opened then true
    else hasExpression opened rest

def resolved (rendered : Text) : Bool := !hasExpression false rendered

/-- The rendered text, if nothing in it is left to replace. -/
def render? (template : Text) (pairs : List (Text × Text)) : Option Text :=
  let rendered := render template pairs
  if resolved rendered then some rendered else none

end Template

end ImageDiscovery
