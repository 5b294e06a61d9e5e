import ImageDiscovery.Text.Utf8

/-!
# Base64 — bytes as letters

Three bytes make four letters of six bits each, and a shorter group at the end is filled up with
equal signs.
-/

namespace ImageDiscovery

namespace Base64

def letter (n : Nat) : Char :=
  if n < 26 then Char.ofNat (0x41 + n)
  else if n < 52 then Char.ofNat (0x61 + (n - 26))
  else if n < 62 then Char.ofNat (0x30 + (n - 52))
  else if n = 62 then '+'
  else '/'

/-- The letter for the six bits of a number above the lowest `shift` ones. -/
def sextet (n shift : Nat) : CodePoint := .char (letter ((n >>> shift) % 64))

def encode : Bytes → Text
  | [] => []
  | [a] =>
    let n := a.toNat * 0x10000
    [sextet n 18, sextet n 12, .char '=', .char '=']
  | [a, b] =>
    let n := a.toNat * 0x10000 + b.toNat * 0x100
    [sextet n 18, sextet n 12, sextet n 6, .char '=']
  | a :: b :: c :: rest =>
    let n := a.toNat * 0x10000 + b.toNat * 0x100 + c.toNat
    sextet n 18 :: sextet n 12 :: sextet n 6 :: sextet n 0 :: encode rest

end Base64

end ImageDiscovery
