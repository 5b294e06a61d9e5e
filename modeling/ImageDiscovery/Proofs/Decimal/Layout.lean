import ImageDiscovery.Proofs.Decimal.Digits

/-!
# Layout — the forms that doubles are written in

A finite double is written as digits, then a point with digits behind it or an exponent or both.  No
zero stands in front of the digits before the point unless it is the only one of them, and there are at
most sixteen.
-/

namespace ImageDiscovery

namespace Decimal

/-- A numeral by its parts; the exponent is a sign and digits. -/
structure Form where
  whole : List Char
  fraction : List Char := []
  exponent : Option (Char × List Char) := none

namespace Form

def fractionChars (f : Form) : List Char := if f.fraction.isEmpty then [] else '.' :: f.fraction

def exponentChars (f : Form) : List Char :=
  match f.exponent with
  | some (sign, digits) => 'e' :: sign :: digits
  | none => []

def chars (f : Form) : List Char := f.whole ++ (f.fractionChars ++ f.exponentChars)

/-- Digits that may stand before a point. -/
structure IsWhole (whole : List Char) : Prop where
  ne_nil : whole ≠ []
  digits : ∀ c ∈ whole, c.isDigit = true
  leading : whole.head? = some '0' → whole.length = 1

structure IsValid (f : Form) : Prop where
  whole : IsWhole f.whole
  length_le : f.whole.length ≤ 16
  fraction : ∀ c ∈ f.fraction, c.isDigit = true
  exponent : ∀ sign digits, f.exponent = some (sign, digits) →
    (sign = '-' ∨ sign = '+') ∧ digits ≠ [] ∧ ∀ c ∈ digits, c.isDigit = true
  /-- A double is told from a whole number. -/
  marked : f.fraction ≠ [] ∨ f.exponent.isSome = true

end Form

/-- Digits that do not begin with a zero. -/
structure IsSignificant (ds : List Char) : Prop where
  ne_nil : ds ≠ []
  digits : ∀ c ∈ ds, c.isDigit = true
  leading : ds.head? ≠ some '0'

theorem isSignificant_toDigits {n : Nat} (h : n ≠ 0) : IsSignificant (Nat.toDigits 10 n) where
  ne_nil := Nat.toDigits_ne_nil
  digits := fun _ hc => Nat.isDigit_of_mem_toDigits (by decide) (by decide) hc
  leading := Numeral.head?_toDigits h

/-- What is dropped stood behind what stays. -/
theorem exists_dropZeros (digits : List Char) :
    ∃ zeros, digits = dropZeros digits ++ zeros ∧ ∀ c ∈ zeros, c = '0' := by
  refine ⟨(digits.reverse.takeWhile (· == '0')).reverse, ?_, ?_⟩
  · rw [dropZeros, ← List.reverse_append, List.takeWhile_append_dropWhile, List.reverse_reverse]
  · intro c hc
    have hall := List.all_takeWhile (p := (· == '0')) (l := digits.reverse)
    exact beq_iff_eq.mp (List.all_eq_true.mp hall c (List.mem_reverse.mp hc))

theorem IsSignificant.dropZeros {digits : List Char} (h : IsSignificant digits) :
    IsSignificant (dropZeros digits) := by
  obtain ⟨zeros, heq, hzeros⟩ := exists_dropZeros digits
  have hne : Decimal.dropZeros digits ≠ [] := by
    intro hnil
    rw [hnil, List.nil_append] at heq
    obtain ⟨d, ds, hds⟩ := List.exists_cons_of_ne_nil h.ne_nil
    have hd : d = '0' := hzeros d (by rw [← heq, hds]; exact List.mem_cons_self)
    exact h.leading (by rw [hds, hd]; rfl)
  refine ⟨hne, fun c hc => h.digits c ?_, fun hhead => h.leading ?_⟩
  · rw [heq]
    exact List.mem_append_left _ hc
  · rw [heq, List.head?_append, hhead]
    rfl

theorem isDigit_of_mem_pad {width : Nat} {digits : List Char} (h : ∀ c ∈ digits, c.isDigit = true) :
    ∀ c ∈ pad width digits, c.isDigit = true := by
  intro c hc
  obtain hc | hc := List.mem_append.mp hc
  · rw [List.eq_of_mem_replicate hc]
    rfl
  · exact h c hc

theorem pad_ne_nil {width : Nat} {digits : List Char} (h : digits ≠ []) : pad width digits ≠ [] :=
  List.append_ne_nil_of_right_ne_nil _ h

section

variable {digits : List Char} {exponent : Int} (h : IsSignificant digits)

include h

/-- Below one, zeros stand between the point and the digits. -/
theorem exists_layOut_small (hsmall : layout.positionalFrom ≤ exponent) (hneg : exponent < 0) :
    ∃ f : Form, layOut layout digits exponent = f.chars ∧ f.IsValid := by
  have hbelow : exponent < layout.positionalBelow := Int.lt_trans hneg (by decide)
  let fraction := List.replicate ((-exponent).toNat - 1) '0' ++ digits
  have hfraction : fraction ≠ [] := List.append_ne_nil_of_right_ne_nil _ h.ne_nil
  have hdigits : ∀ c ∈ fraction, c.isDigit = true := by
    intro c hc
    obtain hc | hc := List.mem_append.mp hc
    · rw [List.eq_of_mem_replicate hc]
      rfl
    · exact h.digits c hc
  have hwhole : Form.IsWhole ['0'] := ⟨by decide, List.forall_mem_singleton.mpr rfl, by decide⟩
  refine ⟨⟨['0'], fraction, none⟩, ?_, hwhole, Nat.le_of_ble_eq_true rfl, hdigits, nofun, .inl hfraction⟩
  unfold layOut
  rw [if_pos ⟨hsmall, hbelow⟩, if_pos hneg, Form.chars, Form.fractionChars,
    if_neg (by simpa using hfraction), Form.exponentChars, List.append_nil]
  rfl

/-- From one on, the point stands among the digits or behind zeros that follow them. -/
theorem exists_layOut_positional (hnonneg : 0 ≤ exponent)
    (hbelow : exponent < layout.positionalBelow) :
    ∃ f : Form, layOut layout digits exponent = f.chars ∧ f.IsValid := by
  have hfrom : layout.positionalFrom ≤ exponent := Int.le_trans (by decide) hnonneg
  have hsixteen : exponent < 16 := hbelow
  let count := exponent.toNat + 1
  let padded := digits ++ List.replicate (count + 1 - digits.length) '0'
  have hlength : count < padded.length := by
    simp only [padded, List.length_append, List.length_replicate]
    omega
  have hpadded : ∀ c ∈ padded, c.isDigit = true := by
    intro c hc
    obtain hc | hc := List.mem_append.mp hc
    · exact h.digits c hc
    · rw [List.eq_of_mem_replicate hc]
      rfl
  have htake : (padded.take count).length = count := List.length_take_of_le (Nat.le_of_lt hlength)
  have hdrop : padded.drop count ≠ [] := by
    rw [← List.length_pos_iff, List.length_drop]
    omega
  have hwhole : Form.IsWhole (padded.take count) := by
    refine ⟨?_, fun c hc => hpadded c (List.mem_of_mem_take hc), fun hhead => absurd hhead ?_⟩
    · rw [← List.length_pos_iff, htake]
      exact Nat.succ_pos _
    · obtain ⟨d, ds, hds⟩ := List.exists_cons_of_ne_nil h.ne_nil
      have hleading := h.leading
      simp only [padded, hds]
      rw [hds] at hleading
      exact hleading
  refine ⟨⟨padded.take count, padded.drop count, none⟩, ?_, hwhole, ?_,
    fun c hc => hpadded c (List.mem_of_mem_drop hc), nofun, .inl hdrop⟩
  · unfold layOut
    rw [if_pos ⟨hfrom, hbelow⟩, if_neg (Int.not_lt.mpr hnonneg), Form.chars, Form.fractionChars,
      if_neg (by simpa using hdrop), Form.exponentChars, List.append_nil]
  · show (padded.take count).length ≤ 16
    rw [htake]
    omega

/-- Elsewhere one digit stands before the point, and the exponent tells the place. -/
theorem exists_layOut_scientific
    (hplace : ¬ (layout.positionalFrom ≤ exponent ∧ exponent < layout.positionalBelow)) :
    ∃ f : Form, layOut layout digits exponent = f.chars ∧ f.IsValid := by
  let sign := if exponent < 0 then '-' else '+'
  let power := pad layout.exponentDigits (Nat.toDigits 10 exponent.natAbs)
  have hsign : sign = '-' ∨ sign = '+' := by
    simp only [sign]
    split
    · exact .inl rfl
    · exact .inr rfl
  have hpower : power ≠ [] ∧ ∀ c ∈ power, c.isDigit = true :=
    ⟨pad_ne_nil Nat.toDigits_ne_nil, isDigit_of_mem_pad fun _ hc =>
      Nat.isDigit_of_mem_toDigits (by decide) (by decide) hc⟩
  obtain ⟨d, ds, rfl⟩ := List.exists_cons_of_ne_nil h.ne_nil
  have hdigits := List.forall_mem_cons.mp h.digits
  have hwhole : Form.IsWhole [d] := ⟨List.cons_ne_nil _ _, by simpa using hdigits.1, fun _ => rfl⟩
  refine ⟨⟨[d], ds, some (sign, power)⟩, ?_, hwhole, Nat.le_of_ble_eq_true rfl, hdigits.2, ?_,
    .inr rfl⟩
  · unfold layOut
    rw [if_neg hplace, Form.chars]
    cases ds with
    | nil => rfl
    | cons _ _ => rfl
  · rintro _ _ heq
    cases heq
    exact ⟨hsign, hpower⟩

/-- Every layout of digits is one of the forms. -/
theorem exists_layOut (exponent : Int) :
    ∃ f : Form, layOut layout digits exponent = f.chars ∧ f.IsValid := by
  by_cases hplace : layout.positionalFrom ≤ exponent ∧ exponent < layout.positionalBelow
  · by_cases hneg : exponent < 0
    · exact exists_layOut_small h hplace.1 hneg
    · exact exists_layOut_positional h (Int.not_lt.mp hneg) hplace.2
  · exact exists_layOut_scientific h hplace

end

end Decimal

/-- The magnitude of a finite double is written in one of the forms. -/
theorem Binary64.exists_chars {x : Binary64} (hnan : x.isNaN = false)
    (hfinite : x.isInfinite = false) :
    ∃ f : Decimal.Form, x.chars = (if x.isNegative then '-' :: f.chars else f.chars) ∧ f.IsValid := by
  unfold chars
  rw [hnan, hfinite, if_neg Bool.false_ne_true, if_neg Bool.false_ne_true]
  by_cases hsignificand : x.significand = 0
  · have hdigits : ∀ c ∈ ['0'], c.isDigit = true := List.forall_mem_singleton.mpr rfl
    have hwhole : Decimal.Form.IsWhole ['0'] := ⟨by decide, hdigits, by decide⟩
    rw [if_pos hsignificand]
    exact ⟨⟨['0'], ['0'], none⟩, rfl, hwhole, by decide, hdigits, nofun, .inl (by decide)⟩
  · have hdigits := Decimal.isSignificant_toDigits (Shortest.digits_ne_zero hsignificand)
    obtain ⟨f, hf, hvalid⟩ := Decimal.exists_layOut hdigits.dropZeros _
    rw [if_neg hsignificand]
    exact ⟨f, congrArg (fun magnitude => if x.isNegative then '-' :: magnitude else magnitude) hf,
      hvalid⟩

end ImageDiscovery
