import ImageDiscovery.Text.Basic

/-!
# Identifier — the names of apps and labels

An identifier is made of runs of lower-case ASCII letters and digits, joined by single separators
out of `-`, `.`, `_`, `~` and `/`.  A newline may end it.
-/

namespace ImageDiscovery

namespace Identifier

def isWordPoint (p : CodePoint) : Bool := p.isDigit || (0x61 ≤ p.toNat && p.toNat ≤ 0x7A)

def isSeparator (p : CodePoint) : Bool :=
  p = .char '-' || p = .char '.' || p = .char '_' || p = .char '~' || p = .char '/'

/-- Is the rest of an identifier well-formed?  `inRun` tells that a run has begun. -/
def accepts (inRun : Bool) : Text → Bool
  | [] => inRun
  | p :: rest =>
    if isWordPoint p then accepts true rest
    else if isSeparator p then inRun && accepts false rest
    else inRun && p = .char '\n' && rest.isEmpty

end Identifier

def isIdentifier (t : Text) : Bool := Identifier.accepts false t

end ImageDiscovery
