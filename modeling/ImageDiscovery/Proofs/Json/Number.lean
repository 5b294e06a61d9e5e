import ImageDiscovery.Json.Reader
import ImageDiscovery.Proofs.Decimal.Layout
import ImageDiscovery.Proofs.Text.Number
import ImageDiscovery.Proofs.Text.Utf8

/-!
# Numbers — whole numbers and doubles that are read as they were written

A number ends where something stands that is no part of a number.  A whole number is read as itself
unless it has too many digits, and every double that is written is read as some double.
-/

namespace ImageDiscovery

namespace Json

/-- What follows is no part of a number. -/
def EndsNumber (rest : Text) : Prop :=
  ∀ p ∈ rest.head?, p.isDigit = false ∧ p ≠ .char '.' ∧ p ≠ .char 'e' ∧ p ≠ .char 'E'

/-! ## Digits -/

section

variable {ds : List Char} {rest : Text}

theorem digits?_append (hne : ds ≠ []) (hds : ∀ c ∈ ds, c.isDigit = true)
    (hrest : ∀ p ∈ rest.head?, p.isDigit = false) :
    digits? (Text.ofChars ds ++ rest) = some (ds, rest) := by
  have hall : ∀ p ∈ Text.ofChars ds, p.isDigit = true := by
    intro p hp
    obtain ⟨c, hc, rfl⟩ := List.mem_map.mp hp
    rw [CodePoint.isDigit_char, hds c hc]
  have htake : rest.takeWhile CodePoint.isDigit = [] := by
    cases rest with
    | nil => rfl
    | cons p rest => exact List.takeWhile_cons_of_neg (by simp [hrest p rfl])
  have hdrop : rest.dropWhile CodePoint.isDigit = rest := by
    cases rest with
    | nil => rfl
    | cons p rest => exact List.dropWhile_cons_of_neg (by simp [hrest p rfl])
  have hdigits : takeDigits (Text.ofChars ds ++ rest) = (ds, rest) := by
    rw [takeDigits, List.takeWhile_append_of_pos hall, List.dropWhile_append_of_pos hall, htake, hdrop,
      List.append_nil, Text.toChars?_ofChars]
    rfl
  rw [digits?, hdigits]
  simp [hne]

theorem readExponent?_of_endsNumber (h : EndsNumber rest) :
    readExponent? rest = some (none, rest) := by
  unfold readExponent?
  split
  · rename_i e rest
    have hpoint := h (.char e) rfl
    rw [if_neg]
    rintro (rfl | rfl)
    · exact hpoint.2.2.1 rfl
    · exact hpoint.2.2.2 rfl
  · rfl

theorem readExponent?_append {sign : Char} (hsign : sign = '-' ∨ sign = '+') (hne : ds ≠ [])
    (hds : ∀ c ∈ ds, c.isDigit = true) :
    ∃ n, ∀ rest, EndsNumber rest →
      readExponent? (.char 'e' :: .char sign :: (Text.ofChars ds ++ rest)) = some (some n, rest) := by
  obtain rfl | rfl := hsign
  · refine ⟨-(Numeral.value ds : Int), fun rest hrest => ?_⟩
    show (digits? (Text.ofChars ds ++ rest)).map _ = _
    rw [digits?_append hne hds fun p hp => (hrest p hp).1]
    rfl
  · refine ⟨(Numeral.value ds : Int), fun rest hrest => ?_⟩
    show (digits? (Text.ofChars ds ++ rest)).map _ = _
    rw [digits?_append hne hds fun p hp => (hrest p hp).1]
    rfl

end

/-! ## Numbers without their signs -/

/-- The double that a numeral with a sign stands for. -/
def signed (negative : Bool) (numeral : Decimal.Numeral) : Binary64 :=
  if negative then numeral.toBinary64.neg else numeral.toBinary64

section

variable {r : Reading} {whole : List Char} {rest : Text} (negative : Bool)

/-- A whole number ends where no part of a number follows. -/
theorem readNumber_whole (hwhole : Decimal.Form.IsWhole whole) (hrest : EndsNumber rest) :
    readNumber r negative (Text.ofChars whole ++ rest) =
      if r.maxDigits < whole.length + negative.toNat then none
      else some (int (if negative then -(Numeral.value whole : Int) else Numeral.value whole), rest) := by
  have hdigits := digits?_append hwhole.ne_nil hwhole.digits fun p hp => (hrest p hp).1
  have hleading : ¬ (whole.head? = some '0' ∧ whole.length ≠ 1) :=
    fun h => h.2 (hwhole.leading h.1)
  have hexponent := readExponent?_of_endsNumber hrest
  unfold readNumber
  rw [hdigits]
  show (if _ then none else if _ then none else _) = _
  rw [if_neg hleading]
  split
  · rfl
  · dsimp only
    split
    · exact absurd rfl (hrest (.char '.') rfl).2.1
    · show (readExponent? rest >>= _) = _
      rw [hexponent]
      rfl

/-- A point with digits behind it makes a double. -/
theorem readNumber_of_fraction {t behind after : Text} {ds : List Char} {e : Option Int}
    (hleading : ¬ (whole.head? = some '0' ∧ whole.length ≠ 1))
    (hmax : whole.length + negative.toNat ≤ r.maxDigits)
    (hdigits : digits? t = some (whole, .char '.' :: behind))
    (hbehind : digits? behind = some (ds, after))
    (hexponent : readExponent? after = some (e, rest)) :
    readNumber r negative t = some (float (signed negative ⟨whole, ds, e.getD 0⟩), rest) := by
  unfold readNumber
  rw [hdigits]
  show (if _ then none else if _ then none else ((digits? behind).map _).bind _) = _
  rw [if_neg hleading, if_neg (Nat.not_lt.mpr hmax), hbehind]
  show (readExponent? after >>= _) = _
  rw [hexponent]
  rfl

/-- So does an exponent. -/
theorem readNumber_of_exponent {t after : Text} {n : Int}
    (hleading : ¬ (whole.head? = some '0' ∧ whole.length ≠ 1))
    (hmax : whole.length + negative.toNat ≤ r.maxDigits)
    (hdigits : digits? t = some (whole, after))
    (hexponent : readExponent? after = some (some n, rest))
    (hpoint : ∀ behind, after ≠ .char '.' :: behind) :
    readNumber r negative t = some (float (signed negative ⟨whole, [], n⟩), rest) := by
  unfold readNumber
  rw [hdigits]
  show (if _ then none else if _ then none else _) = _
  rw [if_neg hleading, if_neg (Nat.not_lt.mpr hmax)]
  dsimp only
  split
  · rename_i behind
    exact absurd rfl (hpoint behind)
  · show (readExponent? after >>= _) = _
    rw [hexponent]
    rfl

/-- The exponent of a form is read up to what is no part of a number. -/
theorem exists_readExponent?_form {f : Decimal.Form} (hf : f.IsValid) :
    ∃ e : Option Int, e.isSome = f.exponent.isSome ∧ ∀ rest, EndsNumber rest →
      readExponent? (Text.ofChars f.exponentChars ++ rest) = some (e, rest) ∧
      ∀ p ∈ (Text.ofChars f.exponentChars ++ rest).head?, p.isDigit = false := by
  unfold Decimal.Form.exponentChars
  split
  · rename_i sign digits hexponent
    obtain ⟨hsign, hne, hdigits⟩ := hf.exponent sign digits hexponent
    obtain ⟨n, hn⟩ := readExponent?_append hsign hne hdigits
    refine ⟨some n, by rw [hexponent]; rfl, fun rest hrest => ⟨hn rest hrest, ?_⟩⟩
    rintro p hp
    cases hp
    decide
  · rename_i hexponent
    exact ⟨none, by rw [hexponent]; rfl, fun rest hrest =>
      ⟨readExponent?_of_endsNumber hrest, fun p hp => (hrest p hp).1⟩⟩

/-- The parts of a double are read one behind the other. -/
theorem exists_readNumber_form {f : Decimal.Form} (hf : f.IsValid) :
    ∃ x, ∀ (r : Reading) (rest : Text), f.whole.length + negative.toNat ≤ r.maxDigits →
      EndsNumber rest →
      readNumber r negative (Text.ofChars f.chars ++ rest) = some (float x, rest) := by
  have hleading : ¬ (f.whole.head? = some '0' ∧ f.whole.length ≠ 1) :=
    fun h => h.2 (hf.whole.leading h.1)
  obtain ⟨e, hsome, hexponent⟩ := exists_readExponent?_form hf
  refine ⟨signed negative ⟨f.whole, f.fraction, e.getD 0⟩, fun r rest hmax hrest => ?_⟩
  obtain ⟨hread, hhead⟩ := hexponent rest hrest
  rw [Decimal.Form.chars, Text.ofChars_append, Text.ofChars_append, List.append_assoc,
    List.append_assoc, Decimal.Form.fractionChars]
  by_cases hfraction : f.fraction = []
  · -- without a fraction there is an exponent
    have hmarked : f.exponent.isSome = true := hf.marked.resolve_left (fun h => h hfraction)
    obtain ⟨n, rfl⟩ := Option.isSome_iff_exists.mp (hsome.trans hmarked)
    obtain ⟨⟨sign, power⟩, hsign⟩ := Option.isSome_iff_exists.mp hmarked
    have hpoint : ∀ behind : Text, Text.ofChars f.exponentChars ++ rest ≠ .char '.' :: behind := by
      intro behind heq
      rw [Decimal.Form.exponentChars, hsign] at heq
      exact absurd (List.cons.inj heq).1 (by decide)
    rw [if_pos (by rw [hfraction]; rfl), hfraction]
    exact readNumber_of_exponent negative hleading hmax
      (digits?_append hf.whole.ne_nil hf.whole.digits hhead) hread hpoint
  · rw [if_neg (by simpa using hfraction)]
    refine readNumber_of_fraction negative hleading hmax
      (digits?_append hf.whole.ne_nil hf.whole.digits ?_)
      (digits?_append hfraction hf.fraction hhead) hread
    rintro p hp
    cases hp
    rfl

end

end Json

end ImageDiscovery
