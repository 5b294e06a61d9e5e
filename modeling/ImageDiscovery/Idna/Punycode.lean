import ImageDiscovery.Text.Basic

/-!
# Punycode — labels of any script in ASCII

RFC 3492: the ASCII part of a label comes first, then a hyphen, then where to insert which other code
points, as numbers with digits of base 36 whose weights adapt as the label grows.
-/

namespace ImageDiscovery

namespace Punycode

/-- The least value of a digit that is followed by another one, at a place of a number. -/
def threshold (place bias : Nat) : Nat := max 1 (min 26 (36 * (place + 1) - bias))

theorem threshold_pos (place bias : Nat) : 1 ≤ threshold place bias := Nat.le_max_left ..

theorem threshold_le (place bias : Nat) : threshold place bias ≤ 26 := by
  unfold threshold
  omega

def halve (delta divisions : Nat) : Nat × Nat :=
  if 455 < delta then halve (delta / 35) (divisions + 36) else (delta, divisions)
termination_by delta
decreasing_by omega

/-- The bias after an insertion, when the label has `count` code points. -/
def adapt (delta : Nat) (first : Bool) (count : Nat) : Nat :=
  let delta := if first then delta / 700 else delta / 2
  let (delta, divisions) := halve (delta + delta / count) 0
  divisions + 36 * delta / (delta + 38)

def initialBias : Nat := 72

/-! ## Writing -/

def digitChar (d : Nat) : Char := if d < 26 then Char.ofNat (0x61 + d) else Char.ofNat (0x30 + (d - 26))

/-- The digits of a number, from a place on. -/
def digits (bias place n : Nat) : List Char :=
  let t := threshold place bias
  if n < t then [digitChar n]
  else digitChar (t + (n - t) % (36 - t)) :: digits bias (place + 1) ((n - t) / (36 - t))
termination_by n
decreasing_by
  have h1 := threshold_pos place bias
  have h2 : (n - threshold place bias) / (36 - threshold place bias) ≤ n - threshold place bias :=
    Nat.div_le_self ..
  omega

/-- What is written so far, and what the next number is counted from. -/
structure Writer where
  out : List Char := []
  delta : Nat := 0
  bias : Nat := initialBias
  /-- How many code points are in place. -/
  count : Nat

/-- Passes one code point of the label while all those equal to `point` are inserted. -/
def Writer.pass (basics point : Nat) (w : Writer) (p : Nat) : Writer :=
  if p < point then { w with delta := w.delta + 1 }
  else if p = point then
    { out := w.out ++ digits w.bias 0 w.delta
      delta := 0
      bias := adapt w.delta (w.count = basics) (w.count + 1)
      count := w.count + 1 }
  else w

/-- Inserts the code points of a label, the lesser ones first; `next` is the least that may come. -/
def Writer.insertAll (label : List Nat) (basics : Nat) (next : Nat) (w : Writer) : List Nat → Writer
  | [] => w
  | point :: rest =>
    let w := { w with delta := w.delta + (point - next) * (w.count + 1) }
    let w := label.foldl (Writer.pass basics point) w
    insertAll label basics (point + 1) { w with delta := w.delta + 1 } rest

def encode (label : List Nat) : List Char :=
  let basics := label.filter (· < 0x80)
  let others := ((label.filter (0x80 ≤ ·)).mergeSort (· ≤ ·)).eraseDups
  let written := (Writer.insertAll label basics.length 0x80 { count := basics.length } others).out
  (if basics.isEmpty then [] else basics.map Char.ofNat ++ ['-']) ++ written

/-! ## Reading -/

def digitValue? (c : Char) : Option Nat :=
  let n := c.toNat
  if 0x61 ≤ n ∧ n ≤ 0x7A then some (n - 0x61)
  else if 0x41 ≤ n ∧ n ≤ 0x5A then some (n - 0x41)
  else if 0x30 ≤ n ∧ n ≤ 0x39 then some (n - 0x30 + 26)
  else none

/-- A number and what follows it, with the weight of the place that comes next. -/
def readNumber (bias place weight sum : Nat) : List Char → Option (Nat × List Char)
  | [] => none
  | c :: rest =>
    match digitValue? c with
    | none => none
    | some d =>
      let t := threshold place bias
      if d < t then some (sum + d * weight, rest)
      else readNumber bias (place + 1) (weight * (36 - t)) (sum + d * weight) rest

theorem length_lt_of_readNumber {bias place weight sum n : Nat} {t rest : List Char}
    (h : readNumber bias place weight sum t = some (n, rest)) : rest.length < t.length := by
  induction t generalizing place weight sum with
  | nil => simp [readNumber] at h
  | cons c t ih =>
    unfold readNumber at h
    split at h
    · simp at h
    · simp only at h
      split at h
      · simp_all
      · exact Nat.lt_succ_of_lt (ih h)

/-- Inserts code points as the numbers tell, from a position and a least code point on. -/
def insertAll (label : List Nat) (position point bias : Nat) (first : Bool) (t : List Char) :
    Option (List Nat) :=
  if t.isEmpty then some label
  else
    match h : readNumber bias 0 1 0 t with
    | none => none
    | some (delta, rest) =>
      have := length_lt_of_readNumber h
      let size := label.length + 1
      let position := position + delta
      let point := point + position / size
      let position := position % size
      if 0x10FFFF < point then none
      else
        insertAll (label.take position ++ point :: label.drop position) (position + 1) point
          (adapt delta first size) false rest
termination_by t.length

/-- The label of an ASCII form: what stands before its last hyphen, and what is inserted there. -/
def decode? (t : List Char) : Option (List Nat) :=
  let after := (t.reverse.takeWhile (· ≠ '-')).reverse
  let basics := t.take (t.length - after.length - 1)
  insertAll (basics.map Char.toNat) 0 0x80 initialBias true after

end Punycode

end ImageDiscovery
