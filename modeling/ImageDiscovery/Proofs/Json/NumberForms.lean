import ImageDiscovery.Proofs.Json.Grammar

/-!
# Number forms — numbers are read where their forms stand, and nowhere else

What the reader takes off a text as a number is the form of one.  Where such a form stands, and nothing
behind it could be a part of it, the reader takes it off.
-/

namespace ImageDiscovery

namespace Json

variable {r : Reading} {t rest : Text} {ds : List Char}

/-! ## Digits -/

theorem exists_digits {t : Text} (h : ∀ p ∈ t, p.isDigit = true) :
    ∃ ds, t = Text.ofChars ds ∧ ∀ c ∈ ds, c.isDigit = true := by
  have hencodable : t.Encodable := by
    intro p hp
    cases p with
    | char c => rfl
    | lone half =>
      have hdigit := h _ hp
      simp only [CodePoint.isDigit, Bool.and_eq_true, decide_eq_true_eq] at hdigit
      exact absurd (show 0xD800 + half.val ≤ 0x39 from hdigit.2) (by omega)
  obtain ⟨ds, rfl⟩ := Text.exists_ofChars_of_encodable hencodable
  refine ⟨ds, rfl, fun c hc => ?_⟩
  rw [← CodePoint.isDigit_char]
  exact h _ (List.mem_map_of_mem hc)

theorem of_digits? (h : digits? t = some (ds, rest)) : IsDigits ds ∧ t = Text.ofChars ds ++ rest := by
  obtain ⟨taken, htaken, hdigits⟩ := exists_digits (t := t.takeWhile CodePoint.isDigit) fun p hp =>
    List.all_eq_true.mp List.all_takeWhile p hp
  have htake : takeDigits t = (taken, t.dropWhile CodePoint.isDigit) := by
    rw [takeDigits, htaken, Text.toChars?_ofChars]
    rfl
  rw [digits?, htake] at h
  dsimp only at h
  split at h
  · cases h
  · rename_i hne
    cases h
    refine ⟨⟨fun hnil => hne (List.isEmpty_iff.mpr hnil), hdigits⟩, ?_⟩
    rw [← htaken, List.takeWhile_append_dropWhile]

theorem IsDigits.digits?_append (h : IsDigits ds) (hrest : EndsNumber rest) :
    digits? (Text.ofChars ds ++ rest) = some (ds, rest) :=
  Json.digits?_append h.ne_nil h.digits fun p hp => (hrest p hp).1

/-! ## Exponents -/

section

variable {letter : Char} (hletter : letter = 'e' ∨ letter = 'E')

include hletter

theorem readExponent?_minus (t : Text) :
    readExponent? (.char letter :: .char '-' :: t) =
      (digits? t).map fun (ds, rest) => (some (-(Numeral.value ds : Int)), rest) := if_pos hletter

theorem readExponent?_plus (t : Text) :
    readExponent? (.char letter :: .char '+' :: t) =
      (digits? t).map fun (ds, rest) => (some (Numeral.value ds : Int), rest) := if_pos hletter

theorem readExponent?_plain {t : Text} (hminus : ∀ rest, t ≠ .char '-' :: rest)
    (hplus : ∀ rest, t ≠ .char '+' :: rest) :
    readExponent? (.char letter :: t) =
      (digits? t).map fun (ds, rest) => (some (Numeral.value ds : Int), rest) := by
  refine (if_pos hletter).trans ?_
  split
  · exact absurd rfl (hminus _)
  · exact absurd rfl (hplus _)
  · rfl

end

theorem of_readExponent? {e : Option Int} (h : readExponent? t = some (e, rest)) :
    (e = none ∧ t = rest) ∨ ∃ form : ExponentForm, form.IsValid ∧ e = some form.value ∧
      t = Text.ofChars form.chars ++ rest := by
  unfold readExponent? at h
  split at h
  · rename_i letter behind
    split at h
    · rename_i hletter
      right
      -- a sign, or none
      split at h
      all_goals
        obtain ⟨⟨ds, rest⟩, hdigits, heq⟩ := Option.map_eq_some_iff.mp h
        cases heq
        obtain ⟨hds, rfl⟩ := of_digits? hdigits
      · refine ⟨⟨letter, some '-', ds⟩, ⟨hletter, ?_, hds⟩, ?_, rfl⟩
        · rintro _ ⟨⟩
          exact .inl rfl
        · rw [ExponentForm.value_minus]
      · refine ⟨⟨letter, some '+', ds⟩, ⟨hletter, ?_, hds⟩, ?_, rfl⟩
        · rintro _ ⟨⟩
          exact .inr rfl
        · rw [ExponentForm.value_of_ne (by simp)]
      · refine ⟨⟨letter, none, ds⟩, ⟨hletter, nofun, hds⟩, ?_, rfl⟩
        rw [ExponentForm.value_of_ne (by simp)]
    · cases h
      exact .inl ⟨rfl, rfl⟩
  · cases h
    exact .inl ⟨rfl, rfl⟩

theorem readExponent?_of_isValid {form : ExponentForm} (h : form.IsValid) (hrest : EndsNumber rest) :
    readExponent? (Text.ofChars form.chars ++ rest) = some (some form.value, rest) := by
  obtain ⟨letter, sign, ds⟩ := form
  have hdigits := h.digits.digits?_append hrest
  cases sign with
  | some c =>
    obtain rfl | rfl := h.sign c rfl
    · rw [ExponentForm.value_minus]
      show readExponent? (.char letter :: .char '-' :: (Text.ofChars ds ++ rest)) = _
      rw [readExponent?_minus h.letter, hdigits]
      rfl
    · rw [ExponentForm.value_of_ne (by simp)]
      show readExponent? (.char letter :: .char '+' :: (Text.ofChars ds ++ rest)) = _
      rw [readExponent?_plus h.letter, hdigits]
      rfl
  | none =>
    have hstart : ∀ c : Char, c.isDigit = false → ∀ behind,
        Text.ofChars ds ++ rest ≠ .char c :: behind := by
      intro c hc behind heq
      obtain ⟨d, others, rfl⟩ := List.exists_cons_of_ne_nil h.digits.ne_nil
      obtain rfl := CodePoint.char.inj (List.cons.inj heq).1
      exact Bool.noConfusion (hc.symm.trans (h.digits.digits d List.mem_cons_self))
    rw [ExponentForm.value_of_ne (by simp)]
    show readExponent? (.char letter :: (Text.ofChars ds ++ rest)) = _
    rw [readExponent?_plain h.letter (hstart '-' (by decide)) (hstart '+' (by decide)), hdigits]
    rfl

/-! ## Numbers -/

theorem isWhole_of_isDigits {whole : List Char} (h : IsDigits whole)
    (hleading : ¬ (whole.head? = some '0' ∧ whole.length ≠ 1)) : Decimal.Form.IsWhole whole where
  ne_nil := h.ne_nil
  digits := h.digits
  leading := fun hhead => Decidable.not_not.mp fun hlength => hleading ⟨hhead, hlength⟩

theorem isWithin_of_not_lt {f : NumberForm} (h : ¬ r.maxDigits < f.whole.length + f.negative.toNat) :
    f.IsWithin r.dialect := by
  rintro n ⟨⟩
  exact Nat.not_lt.mp h

/-- What is read behind a whole part. -/
theorem of_readBehind {negative : Bool} {whole : List Char} {fraction : Option (List Char)}
    {after last : Text} {v : Json} (hwhole : Decimal.Form.IsWhole whole)
    (hmax : ¬ r.maxDigits < whole.length + negative.toNat)
    (hfraction : ∀ ds ∈ fraction, IsDigits ds)
    (hafter : after = Text.ofChars (fraction.elim [] ('.' :: ·)) ++ last)
    (h : (do
      let (exponent, rest) ← readExponent? last
      if fraction.isNone ∧ exponent.isNone then
        let n : Int := Numeral.value whole
        return (int (if negative then -n else n), rest)
      else
        let x := (Decimal.Numeral.mk whole (fraction.getD []) (exponent.getD 0)).toBinary64
        return (float (if negative then x.neg else x), rest)) = some (v, rest)) :
    ∃ f : NumberForm, f.IsValid ∧ f.IsWithin r.dialect ∧ f.negative = negative ∧ v = f.value ∧
      Text.ofChars whole ++ after = Text.ofChars (f.whole ++ f.behind) ++ rest := by
  obtain ⟨⟨exponent, behind⟩, hexponent, hvalue⟩ := Option.bind_eq_some_iff.mp h
  obtain ⟨form, hform, hsame, hlast⟩ : ∃ form : Option ExponentForm, (∀ e ∈ form, e.IsValid) ∧
      exponent = form.map ExponentForm.value ∧
      last = Text.ofChars (form.elim [] ExponentForm.chars) ++ behind := by
    obtain ⟨rfl, rfl⟩ | ⟨e, he, rfl, rfl⟩ := of_readExponent? hexponent
    · exact ⟨none, nofun, rfl, rfl⟩
    · refine ⟨some e, ?_, rfl, rfl⟩
      rintro _ ⟨⟩
      exact he
  let f : NumberForm := ⟨negative, whole, fraction, form⟩
  have hread : v = f.value ∧ rest = behind := by
    unfold NumberForm.value
    dsimp only at hvalue
    rw [hsame, Option.isNone_map] at hvalue
    split at hvalue
    · rename_i hnone
      cases hvalue
      exact ⟨(if_pos hnone).symm, rfl⟩
    · rename_i hsome
      cases hvalue
      exact ⟨(if_neg hsome).symm, rfl⟩
  refine ⟨f, ⟨hwhole, hfraction, hform⟩, isWithin_of_not_lt hmax, rfl, hread.1, ?_⟩
  rw [hafter, hlast, hread.2, NumberForm.behind]
  simp only [f, Text.ofChars_append, List.append_assoc]

/-- A number is taken off as one form. -/
theorem of_readNumber {negative : Bool} {v : Json} (h : readNumber r negative t = some (v, rest)) :
    ∃ f : NumberForm, f.IsValid ∧ f.IsWithin r.dialect ∧ f.negative = negative ∧ v = f.value ∧
      t = Text.ofChars (f.whole ++ f.behind) ++ rest := by
  unfold readNumber at h
  obtain ⟨⟨whole, after⟩, hdigits, hnumber⟩ := Option.bind_eq_some_iff.mp h
  clear h
  obtain ⟨hwhole, rfl⟩ := of_digits? hdigits
  dsimp only at hnumber
  split at hnumber
  · exact nomatch hnumber
  rename_i hleading
  split at hnumber
  · exact nomatch hnumber
  rename_i hmax
  have hvalid := isWhole_of_isDigits hwhole hleading
  split at hnumber
  · obtain ⟨⟨fraction, last⟩, hfraction, hbehind⟩ := Option.bind_eq_some_iff.mp hnumber
    obtain ⟨⟨ds, last⟩, hds, heq⟩ := Option.map_eq_some_iff.mp hfraction
    cases heq
    obtain ⟨hvalid', rfl⟩ := of_digits? hds
    have hvalidFraction : ∀ other ∈ some ds, IsDigits other := by
      rintro _ ⟨⟩
      exact hvalid'
    exact of_readBehind hvalid hmax hvalidFraction rfl hbehind
  · have hvalidFraction : ∀ ds ∈ (none : Option (List Char)), IsDigits ds := nofun
    exact of_readBehind hvalid hmax hvalidFraction rfl hnumber

/-- An exponent is read, or that there is none. -/
theorem readExponent?_elim {exponent : Option ExponentForm} (h : ∀ e ∈ exponent, e.IsValid)
    (hrest : EndsNumber rest) :
    readExponent? (Text.ofChars (exponent.elim [] ExponentForm.chars) ++ rest) =
        some (exponent.map ExponentForm.value, rest) ∧
      ∀ p ∈ (Text.ofChars (exponent.elim [] ExponentForm.chars) ++ rest).head?, p.isDigit = false := by
  cases exponent with
  | none => exact ⟨readExponent?_of_endsNumber hrest, fun p hp => (hrest p hp).1⟩
  | some form =>
    have hform := h form rfl
    refine ⟨readExponent?_of_isValid hform hrest, ?_⟩
    rintro p ⟨⟩
    obtain hletter | hletter := hform.letter
    all_goals
      rw [hletter]
      decide

/-- A number is read up to what is no part of it. -/
theorem readNumber_of_isValid {f : NumberForm} (h : f.IsValid) (hmax : f.IsWithin r.dialect)
    (hrest : EndsNumber rest) :
    readNumber r f.negative (Text.ofChars (f.whole ++ f.behind) ++ rest) = some (f.value, rest) := by
  obtain ⟨negative, whole, fraction, exponent⟩ := f
  have hleading : ¬ (whole.head? = some '0' ∧ whole.length ≠ 1) :=
    fun hzero => hzero.2 (h.whole.leading hzero.1)
  have hlength : whole.length + negative.toNat ≤ r.maxDigits := hmax _ rfl
  obtain ⟨hexponent, hhead⟩ := readExponent?_elim h.exponent hrest
  have hdigits : ∀ {after : Text}, (∀ p ∈ after.head?, p.isDigit = false) →
      digits? (Text.ofChars whole ++ after) = some (whole, after) := fun hafter =>
    digits?_append h.whole.ne_nil h.whole.digits hafter
  cases fraction with
  | some ds =>
    have hfraction := h.fraction ds rfl
    rw [NumberForm.behind, Text.ofChars_append, Text.ofChars_append, List.append_assoc, List.append_assoc]
    have hpoint : ∀ p ∈ (Text.ofChars ('.' :: ds) ++
        (Text.ofChars (exponent.elim [] ExponentForm.chars) ++ rest)).head?, p.isDigit = false := by
      rintro p ⟨⟩
      decide
    have hread := readNumber_of_fraction negative hleading hlength (hdigits hpoint)
      (digits?_append hfraction.ne_nil hfraction.digits hhead) hexponent
    exact hread
  | none =>
    cases exponent with
    | none =>
      show readNumber r negative (Text.ofChars (whole ++ []) ++ rest) = _
      rw [List.append_nil, readNumber_whole negative h.whole hrest, if_neg (Nat.not_lt.mpr hlength)]
      rfl
    | some form =>
      show readNumber r negative (Text.ofChars (whole ++ form.chars) ++ rest) = _
      rw [Text.ofChars_append, List.append_assoc]
      have hpoint : ∀ behind : Text, Text.ofChars form.chars ++ rest ≠ .char '.' :: behind := by
        intro behind heq
        have hletter := (h.exponent form rfl).letter
        rw [CodePoint.char.inj (List.cons.inj heq).1] at hletter
        exact absurd hletter (by decide)
      exact readNumber_of_exponent negative hleading hlength (hdigits hhead) hexponent hpoint

end Json

end ImageDiscovery
