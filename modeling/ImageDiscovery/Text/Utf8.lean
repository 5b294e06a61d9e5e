import ImageDiscovery.Text.Basic

/-!
# Utf8 — texts as bytes

Encoding is total on characters.  Decoding reads one well-formed sequence at a time; the readers of
whole byte strings differ only in what they do where none stands: `decode?` gives up, and `decode`
puts U+FFFD for a number of bytes that its caller chooses.
-/

namespace ImageDiscovery

abbrev Bytes := List UInt8

namespace Utf8

def continuation (n shift : Nat) : UInt8 := UInt8.ofNat (0x80 + (n >>> shift) % 0x40)

/-- The bytes of a code point by its number. -/
def encodeNat (n : Nat) : Bytes :=
  if n < 0x80 then [UInt8.ofNat n]
  else if n < 0x800 then [UInt8.ofNat (0xC0 + n >>> 6), continuation n 0]
  else if n < 0x10000 then [UInt8.ofNat (0xE0 + n >>> 12), continuation n 6, continuation n 0]
  else [UInt8.ofNat (0xF0 + n >>> 18), continuation n 12, continuation n 6, continuation n 0]

def isContinuation (b : UInt8) : Bool := 0x80 ≤ b && b < 0xC0

def low (b : UInt8) : Nat := b.toNat % 0x40

/-- May `b` follow the first byte `a` of a sequence?  This rules out overlong forms, surrogates and
numbers from `0x110000` on. -/
def second (a b : UInt8) : Bool :=
  isContinuation b
    && (a != 0xE0 || 0xA0 ≤ b) && (a != 0xED || b < 0xA0)
    && (a != 0xF0 || 0x90 ≤ b) && (a != 0xF4 || b < 0x90)

/-- The character that starts a byte string and the bytes after it; `none` if no well-formed
sequence stands there. -/
def read? : Bytes → Option (Char × Bytes)
  | [] => none
  | a :: rest =>
    if a < 0x80 then some (Char.ofNat a.toNat, rest)
    else if a < 0xC2 then none
    else if a < 0xE0 then
      match rest with
      | b :: rest =>
        if second a b then some (Char.ofNat ((a.toNat - 0xC0) * 0x40 + low b), rest) else none
      | _ => none
    else if a < 0xF0 then
      match rest with
      | b :: c :: rest =>
        if second a b && isContinuation c then
          some (Char.ofNat (((a.toNat - 0xE0) * 0x40 + low b) * 0x40 + low c), rest)
        else none
      | _ => none
    else if a < 0xF5 then
      match rest with
      | b :: c :: d :: rest =>
        if second a b && isContinuation c && isContinuation d then
          some (Char.ofNat ((((a.toNat - 0xF0) * 0x40 + low b) * 0x40 + low c) * 0x40 + low d), rest)
        else none
      | _ => none
    else none

theorem length_lt_of_read? {bs rest : Bytes} {c : Char} (h : read? bs = some (c, rest)) :
    rest.length < bs.length := by
  unfold read? at h
  split at h
  · simp at h
  · repeat' split at h
    all_goals simp_all
    all_goals (obtain ⟨-, rfl⟩ := h; simp +arith)

/-- Reads a byte string; `none` if it is not well-formed UTF-8 throughout. -/
def decode? (bs : Bytes) : Option (List Char) :=
  match h : read? bs with
  | some (c, rest) =>
    have := length_lt_of_read? h
    (decode? rest).map (c :: ·)
  | none => if bs.isEmpty then some [] else none
termination_by bs.length

/-- Reads a byte string with U+FFFD where no well-formed sequence stands, going on after the
first byte there and as many more as `more` tells. -/
def decode (more : Bytes → Nat) (bs : Bytes) : List Char :=
  match h : read? bs with
  | some (c, rest) =>
    have := length_lt_of_read? h
    c :: decode more rest
  | none =>
    match bs with
    | [] => []
    | _ :: rest => '\uFFFD' :: decode more (rest.drop (more bs))
termination_by bs.length
decreasing_by
  · assumption
  · simp only [List.length_drop, List.length_cons]
    omega

/-- How many bytes after the first belong to the start of a well-formed sequence that breaks off. -/
def brokenOff : Bytes → Nat
  | a :: b :: rest =>
    if a < 0xC2 || 0xF5 ≤ a || !second a b then 0
    else if a < 0xE0 then 0
    else match rest with
      | c :: _ => if 0xF0 ≤ a && isContinuation c then 2 else 1
      | [] => 1
  | _ => 0

/-- Each byte that starts no well-formed sequence becomes U+FFFD. -/
def decodeBytewise (bs : Bytes) : List Char := decode (fun _ => 0) bs

/-- Each longest start of a well-formed sequence becomes one U+FFFD. -/
def decodeSubparts (bs : Bytes) : List Char := decode brokenOff bs

end Utf8

def Text.utf8 (t : Text) : Bytes := t.flatMap fun p => Utf8.encodeNat p.toNat

end ImageDiscovery
