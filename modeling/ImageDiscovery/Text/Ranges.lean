/-!
# Ranges — sets of code points as sorted intervals

The character classes of a standard are tables of intervals.  `Ranges.ofHex` reads such a table
from its usual written form (`378-379 380 38B`), and a look-up is a binary search.
-/

namespace ImageDiscovery

/-- Intervals with both ends included, in increasing order and without overlap. -/
structure Ranges where
  intervals : Array (Nat × Nat)

namespace Ranges

/-- The last interval that starts at or below `n`, looked for among those from `lo` up to `hi`. -/
def search (a : Array (Nat × Nat)) (n lo hi : Nat) : Option (Nat × Nat) :=
  if _h : lo + 1 < hi then
    let mid := (lo + hi) / 2
    match a[mid]? with
    | some (first, _) => if first ≤ n then search a n mid hi else search a n lo mid
    | none => none
  else a[lo]?
termination_by hi - lo
decreasing_by all_goals omega

/-- The interval that holds `n`. -/
def find? (r : Ranges) (n : Nat) : Option (Nat × Nat) :=
  (search r.intervals n 0 r.intervals.size).filter fun (first, last) => first ≤ n && n ≤ last

def contains (r : Ranges) (n : Nat) : Bool := (r.find? n).isSome

/-! ## The written form -/

def hexDigit (c : Char) : Nat :=
  if c.isDigit then c.toNat - '0'.toNat else c.toNat - 'A'.toNat + 10

/-- What is read so far: the intervals, the start of an open one, and the digits of a number. -/
structure Reader where
  intervals : Array (Nat × Nat) := #[]
  first : Option Nat := none
  number : Option Nat := none

def Reader.finish (r : Reader) : Reader :=
  match r.number with
  | some n => { intervals := r.intervals.push (r.first.getD n, n) }
  | none => r

def Reader.step (r : Reader) (c : Char) : Reader :=
  if c = ' ' ∨ c = '\n' then r.finish
  else if c = '-' then { r with first := r.number, number := none }
  else { r with number := some (16 * r.number.getD 0 + hexDigit c) }

def hexNumber (digits : String) : Nat :=
  digits.toList.foldl (fun n c => 16 * n + hexDigit c) 0

def words (s : String) : List String := ((s.replace "\n" " ").splitOn " ").filter (· ≠ "")

/-- Reads intervals of hexadecimal numbers, separated by spaces and new lines. -/
def ofHex (s : String) : Ranges := ⟨(s.toList.foldl Reader.step {}).finish.intervals⟩

end Ranges

end ImageDiscovery
