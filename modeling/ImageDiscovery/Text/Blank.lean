import ImageDiscovery.Text.Basic

/-!
# Blank — white space around names and values

The blanks are the code points of Unicode's `White_Space` and the four information separators
U+001C to U+001F.  Zero-width code points (U+180E, U+200B, U+FEFF) are not among them.
-/

namespace ImageDiscovery

/-- White space, as trimmed from declarations and header options. -/
def CodePoint.isBlank (p : CodePoint) : Bool :=
  let n := p.toNat
  (0x9 ≤ n && n ≤ 0xD) || (0x1C ≤ n && n ≤ 0x20) || n == 0x85 || n == 0xA0 || n == 0x1680
    || (0x2000 ≤ n && n ≤ 0x200A) || n == 0x2028 || n == 0x2029 || n == 0x202F || n == 0x205F
    || n == 0x3000

namespace Text

def trim (t : Text) : Text :=
  dropEndWhile (t.dropWhile CodePoint.isBlank) CodePoint.isBlank

end Text

end ImageDiscovery
