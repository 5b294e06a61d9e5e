import ImageDiscovery.Text.Quoted
import ImageDiscovery.Text.Utf8

/-!
# Encoding — texts that a character set cannot hold

Headers are ASCII and pages are UTF-8.  A text that is neither is refused, with the first run of code
points that stand in the way.
-/

namespace ImageDiscovery

/-- The first code points of a text that have no form in a character set. -/
structure Unencodable where
  charset : Text
  /-- Where they begin. -/
  position : Nat
  /-- The first of them. -/
  point : CodePoint
  /-- How many more follow directly. -/
  more : Nat
  reason : Text
deriving DecidableEq

def Unencodable.message (u : Unencodable) : Text :=
  let place :=
    if u.more = 0 then
      "character '" ++ Quoted.numericEscape u.point.toNat ++ "' in position " ++ Text.ofNat u.position
    else
      "characters in position " ++ Text.ofNat u.position ++ "-" ++ Text.ofNat (u.position + u.more)
  Text.quoted u.charset ++ " codec can't encode " ++ place ++ ": " ++ u.reason

namespace Text

/-- The first run of code points that a test refuses. -/
def refused (charset reason : Text) (holds : CodePoint → Bool) (t : Text) : Option Unencodable :=
  match t.dropWhile holds with
  | [] => none
  | p :: rest => some {
      charset
      position := (t.takeWhile holds).length
      point := p
      more := (rest.takeWhile fun q => !holds q).length
      reason }

/-- What stands in the way of the UTF-8 form of a text. -/
def notUtf8 (t : Text) : Option Unencodable :=
  refused "utf-8" "surrogates not allowed" CodePoint.isChar t

/-- What stands in the way of the ASCII form of a text. -/
def notAscii (t : Text) : Option Unencodable :=
  refused "ascii" "ordinal not in range(128)" CodePoint.isAscii t

theorem dropWhile_eq_nil_iff {holds : CodePoint → Bool} {t : Text} :
    t.dropWhile holds = [] ↔ ∀ p ∈ t, holds p = true := by
  induction t with
  | nil => simp
  | cons p t ih => by_cases h : holds p = true <;> simp [h, ih]

theorem refused_eq_none_iff {charset reason t : Text} {holds : CodePoint → Bool} :
    refused charset reason holds t = none ↔ ∀ p ∈ t, holds p = true := by
  rw [← dropWhile_eq_nil_iff]
  unfold refused
  split <;> simp_all

end Text

end ImageDiscovery
