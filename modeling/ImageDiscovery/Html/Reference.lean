import ImageDiscovery.Html.ReferenceNames

/-!
# Reference — characters written by name or number

An attribute value may write a character as `&name;`, `&#65;` or `&#x41;`.  A number needs no
semicolon, and some names need none, unless a letter, a digit or an equal sign follows, as it does in
the query of an address.  What is no reference stands for itself.
-/

namespace ImageDiscovery

namespace Html

namespace Reference

/-- The characters that the numbers from 0x80 to 0x9F mean; an unused number means itself. -/
def legacyPoints : List (Nat × Nat) :=
  [(0x80, 0x20AC), (0x82, 0x201A), (0x83, 0x0192), (0x84, 0x201E), (0x85, 0x2026), (0x86, 0x2020),
    (0x87, 0x2021), (0x88, 0x02C6), (0x89, 0x2030), (0x8A, 0x0160), (0x8B, 0x2039), (0x8C, 0x0152),
    (0x8E, 0x017D), (0x91, 0x2018), (0x92, 0x2019), (0x93, 0x201C), (0x94, 0x201D), (0x95, 0x2022),
    (0x96, 0x2013), (0x97, 0x2014), (0x98, 0x02DC), (0x99, 0x2122), (0x9A, 0x0161), (0x9B, 0x203A),
    (0x9C, 0x0153), (0x9E, 0x017E), (0x9F, 0x0178)]

/-- The character that a number means; zero and what is no character mean U+FFFD. -/
def ofNumber (n : Nat) : Char :=
  if n = 0 ∨ 0x10FFFF < n ∨ (0xD800 ≤ n ∧ n < 0xE000) then '\uFFFD'
  else match legacyPoints.lookup n with
    | some m => Char.ofNat m
    | none => Char.ofNat n

def digitValue? (base : Nat) (c : Char) : Option Nat :=
  let n := c.toNat
  let value? :=
    if 0x30 ≤ n ∧ n ≤ 0x39 then some (n - 0x30)
    else if 0x41 ≤ n ∧ n ≤ 0x46 then some (n - 0x41 + 10)
    else if 0x61 ≤ n ∧ n ≤ 0x66 then some (n - 0x61 + 10)
    else none
  value?.filter (· < base)

/-- The number at the start of a text, if there is a digit, and what follows. -/
def readDigits (base : Nat) : Option Nat → List Char → Option (Nat × List Char)
  | before, [] => before.map fun n => (n, [])
  | before, c :: rest =>
    match digitValue? base c with
    | some d => readDigits base (some (base * before.getD 0 + d)) rest
    | none => before.map fun n => (n, c :: rest)

def dropSemicolon : List Char → List Char
  | ';' :: rest => rest
  | rest => rest

/-- A character by number, after the number sign. -/
def readNumber (t : List Char) : Option (List Char × List Char) :=
  let read (base : Nat) (digits : List Char) : Option (List Char × List Char) :=
    (readDigits base none digits).map fun (n, rest) => ([ofNumber n], dropSemicolon rest)
  match t with
  | 'x' :: digits => read 16 digits
  | 'X' :: digits => read 16 digits
  | digits => read 10 digits

/-- A character by name, after the ampersand. -/
def readName (t : List Char) : Option (List Char × List Char) :=
  let name := t.takeWhile Char.isAlphanum
  match t.dropWhile Char.isAlphanum with
  | ';' :: rest => (names.lookup name).map fun chars => (chars, rest)
  | '=' :: _ => none
  | rest => if name ∈ looseNames then (names.lookup name).map fun chars => (chars, rest) else none

/-- What a reference stands for and what follows it, given the text after the ampersand.  The four
names that writers use come before the table. -/
def read? (t : List Char) : Option (List Char × List Char) :=
  match t with
  | 'a' :: 'm' :: 'p' :: ';' :: rest => some (['&'], rest)
  | 'l' :: 't' :: ';' :: rest => some (['<'], rest)
  | 'g' :: 't' :: ';' :: rest => some (['>'], rest)
  | 'q' :: 'u' :: 'o' :: 't' :: ';' :: rest => some (['"'], rest)
  | '#' :: number => readNumber number
  | t => readName t

theorem length_le_of_readDigits {base n : Nat} {before : Option Nat} {t rest : List Char}
    (h : readDigits base before t = some (n, rest)) : rest.length ≤ t.length := by
  induction t generalizing before with
  | nil =>
    obtain ⟨m, -, hm⟩ := Option.map_eq_some_iff.1 h
    simp_all
  | cons c t ih =>
    unfold readDigits at h
    split at h
    · exact Nat.le_succ_of_le (ih h)
    · obtain ⟨m, -, hm⟩ := Option.map_eq_some_iff.1 h
      simp_all

theorem length_dropSemicolon_le (t : List Char) : (dropSemicolon t).length ≤ t.length := by
  unfold dropSemicolon
  split <;> simp

theorem length_le_of_readNumber {t chars rest : List Char}
    (h : readNumber t = some (chars, rest)) : rest.length ≤ t.length := by
  have bound {base : Nat} {digits : List Char}
      (h : ((readDigits base none digits).map fun (n, rest) =>
        ([ofNumber n], dropSemicolon rest)) = some (chars, rest)) :
      rest.length ≤ digits.length := by
    obtain ⟨⟨n, after⟩, hd, he⟩ := Option.map_eq_some_iff.1 h
    obtain ⟨-, rfl⟩ := Prod.mk.injEq .. ▸ he
    exact Nat.le_trans (length_dropSemicolon_le _) (length_le_of_readDigits hd)
  unfold readNumber at h
  split at h
  · exact Nat.le_succ_of_le (bound h)
  · exact Nat.le_succ_of_le (bound h)
  · exact bound h

theorem length_dropWhile_le (p : Char → Bool) (t : List Char) :
    (t.dropWhile p).length ≤ t.length := (List.dropWhile_suffix p).length_le

theorem length_le_of_readName {t chars rest : List Char}
    (h : readName t = some (chars, rest)) : rest.length ≤ t.length := by
  have hd := length_dropWhile_le Char.isAlphanum t
  unfold readName at h
  split at h
  · rename_i after heq
    obtain ⟨_, -, he⟩ := Option.map_eq_some_iff.1 h
    obtain ⟨-, rfl⟩ := Prod.mk.injEq .. ▸ he
    rw [heq] at hd
    simp at hd
    omega
  · simp at h
  · simp only at h
    split at h
    · obtain ⟨_, -, he⟩ := Option.map_eq_some_iff.1 h
      obtain ⟨-, rfl⟩ := Prod.mk.injEq .. ▸ he
      exact hd
    · simp at h

theorem length_le_of_read? {t chars rest : List Char} (h : read? t = some (chars, rest)) :
    rest.length ≤ t.length := by
  unfold read? at h
  split at h
  case h_5 number =>
    exact Nat.le_succ_of_le (length_le_of_readNumber h)
  case h_6 => exact length_le_of_readName h
  all_goals
    obtain ⟨-, rfl⟩ := Prod.mk.injEq .. ▸ Option.some.inj h
    simp +arith

end Reference

/-- The text that an attribute value stands for. -/
def decodeReferences : List Char → List Char
  | [] => []
  | c :: rest =>
    if c = '&' then
      match h : Reference.read? rest with
      | some (chars, after) =>
        have := Reference.length_le_of_read? h
        chars ++ decodeReferences after
      | none => c :: decodeReferences rest
    else c :: decodeReferences rest
termination_by t => t.length

end Html

end ImageDiscovery
