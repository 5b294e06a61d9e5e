/-!
# Binary64 — doubles as bit patterns

A double is kept as its 64 bits, so that equality is decidable and every fact about it is one about
natural numbers.  `ofRatio` rounds a quotient to the nearest double, a tie to the even one.
-/

namespace ImageDiscovery

def tenTo (exponent : Nat) : Nat := Nat.pow 10 exponent

structure Binary64 where
  bits : UInt64
deriving DecidableEq

namespace Binary64

/-- The bits of the sign, the exponent and the fraction. -/
def isNegative (x : Binary64) : Bool := x.bits >>> 63 == 1

def exponentBits (x : Binary64) : Nat := ((x.bits >>> 52) &&& 0x7FF).toNat

def fractionBits (x : Binary64) : Nat := (x.bits &&& 0xFFFFFFFFFFFFF).toNat

def isNaN (x : Binary64) : Bool := x.exponentBits == 0x7FF && x.fractionBits != 0

def isInfinite (x : Binary64) : Bool := x.exponentBits == 0x7FF && x.fractionBits == 0

/-- The magnitude of a finite double is `significand * 2 ^ (scale - 1074)`. -/
def significand (x : Binary64) : Nat :=
  if x.exponentBits = 0 then x.fractionBits else x.fractionBits + 1 <<< 52

def scale (x : Binary64) : Nat := x.exponentBits - 1

def infinityBits : Nat := 0x7FF <<< 52

def infinity : Binary64 := ⟨UInt64.ofNat infinityBits⟩

def nan : Binary64 := ⟨UInt64.ofNat (infinityBits + 1 <<< 51)⟩

def zero : Binary64 := ⟨0⟩

/-- The double with the same magnitude and the sign bit turned over. -/
def neg (x : Binary64) : Binary64 := ⟨x.bits ^^^ 0x8000000000000000⟩

/-- Above zero; no NaN is. -/
def isPositive (x : Binary64) : Bool := !x.isNaN && !x.isNegative && x.bits != 0

/-- The nearest whole number to `num / den`, a tie to the even one. -/
def roundQuotient (num den : Nat) : Nat :=
  let quotient := num / den
  let rest := 2 * (num % den)
  if rest < den ∨ (rest = den ∧ quotient % 2 = 0) then quotient else quotient + 1

/-- The double nearest to `num / den`, a tie to the even one; infinity from beyond the largest. -/
def ofRatio (num den : Nat) : Binary64 :=
  if num = 0 ∨ den = 0 then zero
  else
    -- the significand of `num / den` at this scale has at most 53 bits and, but for scale 0, 52
    let guess := (Int.ofNat num.log2 - Int.ofNat den.log2 + 1074 - 52).toNat
    let atScale (s : Nat) : Nat × Nat := (num <<< (1074 - s), den <<< (s - 1074))
    let (n, d) := atScale guess
    let s := if n / d < 1 <<< 52 then guess - 1 else guess
    let (n, d) := atScale s
    let bits := s <<< 52 + roundQuotient n d
    if bits < infinityBits then ⟨UInt64.ofNat bits⟩ else infinity

end Binary64

end ImageDiscovery
