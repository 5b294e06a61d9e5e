/-!
# Text — sequences of code points

App strings, labels and log fields may hold half of a surrogate pair that stands alone, which no
`Char` is.  A `Text` is therefore a list of code points, each a character or such a half, and
`Text.Encodable` says that a text has none of the latter and so has a UTF-8 form.

The searches below are stated on the list itself: `cut` splits at the first separator and loses
nothing, `split` splits at every one.
-/

namespace ImageDiscovery

/-- A character, or half of a surrogate pair that stands alone (by its offset from U+D800). -/
inductive CodePoint where
  | char (c : Char)
  | lone (half : Fin 2048)
deriving DecidableEq, Inhabited

namespace CodePoint

def toNat : CodePoint → Nat
  | .char c => c.toNat
  | .lone half => 0xD800 + half.val

/-- The code point of a number; `none` from `0x110000` on. -/
def ofNat? (n : Nat) : Option CodePoint :=
  if 0xD800 ≤ n ∧ n < 0xE000 then some (.lone (Fin.ofNat 2048 (n - 0xD800)))
  else if n < 0x110000 then some (.char (Char.ofNat n))
  else none

def isChar : CodePoint → Bool
  | .char _ => true
  | .lone _ => false

def isAscii (p : CodePoint) : Bool := p.toNat < 0x80

def isDigit (p : CodePoint) : Bool := 0x30 ≤ p.toNat && p.toNat ≤ 0x39

def isLetter (p : CodePoint) : Bool :=
  (0x41 ≤ p.toNat && p.toNat ≤ 0x5A) || (0x61 ≤ p.toNat && p.toNat ≤ 0x7A)

def hexValue? (p : CodePoint) : Option Nat :=
  let n := p.toNat
  if 0x30 ≤ n ∧ n ≤ 0x39 then some (n - 0x30)
  else if 0x41 ≤ n ∧ n ≤ 0x46 then some (n - 0x41 + 10)
  else if 0x61 ≤ n ∧ n ≤ 0x66 then some (n - 0x61 + 10)
  else none

/-- ASCII upper-case letters become lower-case; nothing else changes. -/
def asciiLower (p : CodePoint) : CodePoint :=
  match p with
  | .char c => .char c.toLower
  | .lone half => .lone half

end CodePoint

abbrev Text := List CodePoint

namespace Text

def ofChars (cs : List Char) : Text := cs.map .char

def ofString (s : String) : Text := ofChars s.toList

instance : Coe String Text := ⟨ofString⟩

instance : LawfulBEq Text := inferInstanceAs (LawfulBEq (List CodePoint))

/-- Every code point is a character, so the text has a UTF-8 form. -/
def Encodable (t : Text) : Prop := ∀ p ∈ t, p.isChar = true

instance (t : Text) : Decidable t.Encodable := inferInstanceAs (Decidable (∀ p ∈ t, _))

/-- The characters of a text; `none` if a surrogate stands alone in it. -/
def toChars? : Text → Option (List Char)
  | [] => some []
  | .char c :: rest => (toChars? rest).map (c :: ·)
  | .lone _ :: _ => none

def toString? (t : Text) : Option String := t.toChars?.map String.ofList

def isAscii (t : Text) : Bool := t.all CodePoint.isAscii

/-- The text up to the first separator and what follows it; `none` when there is no separator. -/
def cut (sep : CodePoint) : Text → Text × Option Text
  | [] => ([], none)
  | p :: rest =>
    if p = sep then ([], some rest)
    else
      let (before, after) := cut sep rest
      (p :: before, after)

/-- The texts between separators; `n` separators give `n + 1` texts. -/
def split (sep : CodePoint) (t : Text) : List Text :=
  t.foldr (fun p parts =>
    if p = sep then [] :: parts
    else match parts with
      | [] => [[p]]
      | first :: others => (p :: first) :: others) [[]]

/-- Texts one after another, with a separator between neighbours. -/
def join (sep : Text) : List Text → Text
  | [] => []
  | [t] => t
  | t :: rest => t ++ sep ++ join sep rest

def replace (t : Text) (p : CodePoint) (substitute : Text) : Text :=
  t.flatMap fun q => if q = p then substitute else [q]

/-- The text without the longest ending of code points that satisfy `p`. -/
def dropEndWhile (t : Text) (p : CodePoint → Bool) : Text := (t.reverse.dropWhile p).reverse

def asciiLower (t : Text) : Text := t.map CodePoint.asciiLower

def ofNat (n : Nat) : Text := ofChars (Nat.toDigits 10 n)

def ofInt : Int → Text
  | .ofNat n => ofNat n
  | .negSucc n => .char '-' :: ofNat (n + 1)

/-- Does `needle` occur in the text, from any position on? -/
def isWithin (needle : Text) : Text → Bool
  | [] => needle.isEmpty
  | p :: rest => needle.isPrefixOf (p :: rest) || isWithin needle rest

/-- Order by code points, the shorter of two texts first when it starts the longer. -/
def le : Text → Text → Bool
  | [], _ => true
  | _ :: _, [] => false
  | p :: s, q :: t => if p = q then le s t else p.toNat < q.toNat

/-! ## What the searches lose: nothing -/

theorem cut_eq_none {sep : CodePoint} {t before : Text} (h : t.cut sep = (before, none)) :
    before = t ∧ sep ∉ t := by
  induction t generalizing before with
  | nil => simp_all [cut]
  | cons p rest ih =>
    unfold cut at h
    split at h
    · simp at h
    · rename_i hp
      obtain ⟨rfl, hr⟩ := Prod.mk.injEq .. ▸ h
      have := @ih (cut sep rest).1 (by rw [← hr])
      grind

theorem cut_eq_some {sep : CodePoint} {t before after : Text}
    (h : t.cut sep = (before, some after)) : t = before ++ sep :: after ∧ sep ∉ before := by
  induction t generalizing before with
  | nil => simp [cut] at h
  | cons p rest ih =>
    unfold cut at h
    split at h
    · rename_i hp
      simp_all
    · rename_i hp
      obtain ⟨rfl, hr⟩ := Prod.mk.injEq .. ▸ h
      have := @ih (cut sep rest).1 (by rw [← hr])
      grind

theorem split_ne_nil (sep : CodePoint) (t : Text) : t.split sep ≠ [] := by
  cases t with
  | nil => simp [split]
  | cons p rest =>
    simp only [split, List.foldr_cons]
    split
    · simp
    · split <;> simp

end Text

end ImageDiscovery
