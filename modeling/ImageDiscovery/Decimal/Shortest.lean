import ImageDiscovery.Decimal.Binary64

/-!
# Shortest — the fewest decimal digits that read back

Every double is written with the fewest digits that round to it, and of those with the digits
nearest to it.  All arithmetic is on whole numbers: a double is a quotient, and the quotients that
round to it lie between the middles to its two neighbours.
-/

namespace ImageDiscovery

namespace Shortest

/-- A positive quotient with the ends of the interval that rounds to it, over one denominator.  The
ends belong to it when `closed` holds. -/
structure Target where
  value : Nat
  low : Nat
  high : Nat
  denominator : Nat
  closed : Bool

def Target.of (x : Binary64) : Target :=
  let m := x.significand
  let up := 1 <<< (x.scale - 1074)
  -- below a power of two the doubles lie twice as close
  let narrow := m == 1 <<< 52 && x.scale != 0
  { value := 4 * m * up
    low := (if narrow then 4 * m - 1 else 4 * m - 2) * up
    high := (4 * m + 2) * up
    denominator := 4 <<< (1074 - x.scale)
    closed := m % 2 == 0 }

/-- Does `digits * 10 ^ power` round to the target? -/
def Target.holds (t : Target) (digits : Nat) (power : Int) : Bool :=
  let num := digits * tenTo power.toNat * t.denominator
  let den := tenTo (-power).toNat
  let low := t.low * den
  let high := t.high * den
  (low < num && num < high) || (t.closed && (num == low || num == high))

/-- The place of the first digit: the largest `e` with `10 ^ e ≤ value`. -/
def Target.magnitude (t : Target) : Int :=
  if t.denominator ≤ t.value then (Nat.toDigits 10 (t.value / t.denominator)).length - 1
  else
    let k := (Nat.toDigits 10 (t.denominator / t.value)).length
    if t.denominator ≤ t.value * tenTo (k - 1) then 1 - (k : Int) else -(k : Int)

/-- The digits of the better neighbour of the value on the grid of `10 ^ power` that rounds to it:
the nearer one, and of two equally near ones the even one. -/
def Target.onGrid (t : Target) (power : Int) : Option Nat :=
  let num := t.value * tenTo (-power).toNat
  let den := t.denominator * tenTo power.toNat
  let below := num / den
  let above := below + 1
  let rest := 2 * (num % den)
  match t.holds below power, t.holds above power with
  | true, true =>
    if rest < den ∨ (rest = den ∧ below % 2 = 0) then some below else some above
  | true, false => some below
  | false, true => some above
  | false, false => none

/-- The first grid with a hit, from the coarsest on. -/
def Target.search (t : Target) (power : Int) : Nat → Nat × Int
  | 0 => (t.value * tenTo (-power).toNat / (t.denominator * tenTo power.toNat), power)
  | finer + 1 =>
    match t.onGrid power with
    | some digits => (digits, power)
    | none => search t (power - 1) finer

/-- Digits and the power of ten of the last one, for a finite double above zero.  Seventeen digits
always suffice. -/
def digits (x : Binary64) : Nat × Int :=
  let t := Target.of x
  t.search t.magnitude 17

end Shortest

end ImageDiscovery
