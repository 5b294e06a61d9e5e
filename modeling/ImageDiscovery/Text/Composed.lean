import ImageDiscovery.Text.Canonical

/-!
# Composed — one way to write a letter with its marks

A letter with marks can be written as one code point or as several.  In the composed form (Normal
Form C of Unicode 14) marks stand in the order of their classes and whatever can be one code point is
one; `Canonical.isComposed` asks whether a text has that form.
-/

namespace ImageDiscovery

namespace Canonical

/-- The combining class of a code point; letters have class zero. -/
def classOf (point : Nat) : Nat :=
  match classes.find? fun (_, points) => points.contains point with
  | some (k, _) => k
  | none => 0

/-! ## Hangul syllables are put together by rule -/

def syllableBase : Nat := 0xAC00

def leadBase : Nat := 0x1100

def vowelBase : Nat := 0x1161

def tailBase : Nat := 0x11A7

def leadCount : Nat := 19

def vowelCount : Nat := 21

def tailCount : Nat := 28

def isSyllable (n : Nat) : Bool :=
  syllableBase ≤ n && n < syllableBase + leadCount * vowelCount * tailCount

def splitSyllable (n : Nat) : List Nat :=
  let i := n - syllableBase
  let head := [leadBase + i / (vowelCount * tailCount),
    vowelBase + i % (vowelCount * tailCount) / tailCount]
  if i % tailCount = 0 then head else head ++ [tailBase + i % tailCount]

def joinSyllable? (a b : Nat) : Option Nat :=
  if leadBase ≤ a ∧ a < leadBase + leadCount ∧ vowelBase ≤ b ∧ b < vowelBase + vowelCount then
    some (syllableBase + ((a - leadBase) * vowelCount + (b - vowelBase)) * tailCount)
  else if isSyllable a ∧ (a - syllableBase) % tailCount = 0 ∧ tailBase < b
      ∧ b < tailBase + tailCount then
    some (a + (b - tailBase))
  else none

/-! ## Taking apart, ordering, putting together -/

/-- What a code point is made of, one step down. -/
def parts? (point : Nat) : Option (List Nat) :=
  if isSyllable point then some (splitSyllable point)
  else match composites.find? fun (p, _) => p = point with
    | some (_, parts) => some parts
    | none => (singletons.find? fun (p, _) => p = point).map Prod.snd

/-- No decomposition has more steps than this. -/
def maxSteps : Nat := 8

/-- What a code point is made of in the end. -/
def takeApart (point : Nat) : Nat → List Nat
  | 0 => [point]
  | steps + 1 =>
    match parts? point with
    | none => [point]
    | some parts => parts.flatMap fun part => takeApart part steps

/-- Puts a mark before those of a higher class that end a text; the text is backwards. -/
def insertMark (point k : Nat) : List (Nat × Nat) → List (Nat × Nat)
  | [] => [(point, k)]
  | (other, l) :: before =>
    if 0 < k ∧ k < l then (other, l) :: insertMark point k before
    else (point, k) :: (other, l) :: before

/-- The parts of a text with their classes, the marks in the order of those. -/
def ordered (points : List Nat) : List (Nat × Nat) :=
  ((points.flatMap fun p => takeApart p maxSteps).foldl
    (fun before p => insertMark p (classOf p) before) []).reverse

def joined? (a b : Nat) : Option Nat :=
  (joinSyllable? a b).or ((composites.find? fun (_, parts) => parts = [a, b]).map Prod.fst)

/-- A letter that may still take marks, and the marks that it did not take, backwards. -/
structure Cluster where
  letter : Nat
  marks : List (Nat × Nat) := []

def Cluster.points (c : Cluster) : List Nat := c.letter :: (c.marks.reverse.map Prod.fst)

/-- A mark joins its letter unless one of its own class or a higher one, or a letter, is between. -/
def Cluster.take? (c : Cluster) (point k : Nat) : Option Cluster :=
  match c.marks with
  | [] => (joined? c.letter point).map fun letter => { c with letter }
  | (_, l) :: _ =>
    if l < k then (joined? c.letter point).map fun letter => { c with letter } else none

def putTogether (cluster : Option Cluster) : List (Nat × Nat) → List Nat
  | [] => (cluster.map Cluster.points).getD []
  | (point, k) :: rest =>
    match cluster with
    | none => if k = 0 then putTogether (some ⟨point, []⟩) rest else point :: putTogether none rest
    | some c =>
      match c.take? point k with
      | some c => putTogether (some c) rest
      | none =>
        if k = 0 then c.points ++ putTogether (some ⟨point, []⟩) rest
        else putTogether (some { c with marks := (point, k) :: c.marks }) rest

def composed (points : List Nat) : List Nat := putTogether none (ordered points)

def isComposed (points : List Nat) : Bool := composed points = points

end Canonical

end ImageDiscovery
