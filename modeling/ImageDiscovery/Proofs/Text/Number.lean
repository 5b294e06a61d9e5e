import ImageDiscovery.Proofs.Decimal.Digits
import ImageDiscovery.Proofs.Text.Split
import ImageDiscovery.Text.Digit
import Mathlib.Algebra.Group.Nat.Defs

/-!
# Number — whole numbers that are read as they were written

A numeral may be written in many ways, and the number that it stands for is written in one: a sign or
none, then its digits.  This is read as the same number, since it has no more digits than a numeral of
that number may have.
-/

namespace ImageDiscovery

theorem CodePoint.isDigit_char (c : Char) : (CodePoint.char c).isDigit = c.isDigit := by
  show (decide (0x30 ≤ c.toNat) && decide (c.toNat ≤ 0x39)) = _
  simp only [Char.isDigit, ge_iff_le, UInt32.le_iff_toNat_le]
  rfl

/-- Where the digits of ASCII are. -/
theorem toNat_of_isDigit {c : Char} (h : c.isDigit = true) : 0x30 ≤ c.toNat ∧ c.toNat ≤ 0x39 := by
  rw [← CodePoint.isDigit_char, CodePoint.isDigit, Bool.and_eq_true, decide_eq_true_eq,
    decide_eq_true_eq] at h
  exact h

namespace Numeral

/-- So many digits make no greater number. -/
theorem value_lt {ds : List Char} (h : ∀ c ∈ ds, c.isDigit = true) : value ds < 10 ^ ds.length := by
  have hfold : ∀ (ds : List Char) (n : Nat), (∀ c ∈ ds, c.isDigit = true) →
      ds.foldl (fun n d => 10 * n + (d.toNat - 0x30)) n < (n + 1) * 10 ^ ds.length := by
    intro ds
    induction ds with
    | nil => simp
    | cons d ds ih =>
      intro n hall
      rw [List.forall_mem_cons] at hall
      have hd := toNat_of_isDigit hall.1
      rw [List.foldl_cons, List.length_cons]
      calc ds.foldl (fun n d => 10 * n + (d.toNat - 0x30)) (10 * n + (d.toNat - 0x30))
        _ < (10 * n + (d.toNat - 0x30) + 1) * 10 ^ ds.length := ih _ hall.2
        _ ≤ ((n + 1) * 10) * 10 ^ ds.length := Nat.mul_le_mul_right _ (by omega)
        _ = (n + 1) * 10 ^ (ds.length + 1) := by rw [Nat.mul_assoc, ← Nat.pow_succ']
  have hvalue := hfold ds 0 h
  rw [Nat.zero_add, Nat.one_mul] at hvalue
  exact hvalue

theorem dropUnderscores_eq_self {cs : List Char} (h : '_' ∉ cs) (after : Bool) :
    dropUnderscores after cs = some cs := by
  induction cs generalizing after with
  | nil => rfl
  | cons c cs ih =>
    rw [List.mem_cons, not_or] at h
    rw [dropUnderscores, ih h.2]
    · rfl
    all_goals
      intros
      exact h.1 (by simp_all)

end Numeral

namespace Text

/-- What numbers are written with. -/
def IsNumeric (cs : List Char) : Prop := ∀ c ∈ cs, c = '-' ∨ c.isDigit = true

theorem IsNumeric.toNat {cs : List Char} (h : IsNumeric cs) {c : Char} (hc : c ∈ cs) :
    0x2D ≤ c.toNat ∧ c.toNat ≤ 0x39 := by
  rcases h c hc with rfl | hdigit
  · decide
  · have hnumber := toNat_of_isDigit hdigit
    omega

/-- Nothing of a numeral in ASCII is changed or left out. -/
theorem plainNumeral_ofChars {cs : List Char} (h : IsNumeric cs) : plainNumeral (ofChars cs) = cs := by
  have hblank : ∀ p ∈ ofChars cs, p.isNumeralBlank = false := by
    intro p hp
    rcases List.mem_map.mp hp with ⟨c, hc, rfl⟩
    have hnumber := h.toNat hc
    have hpoint : (CodePoint.char c).toNat = c.toNat := rfl
    simp [CodePoint.isNumeralBlank, CodePoint.isBlank, hpoint]
    omega
  have hplain : ∀ c ∈ cs, (CodePoint.char c).plainDigit = c := by
    intro c hc
    have hnumber := h.toNat hc
    exact if_pos (by omega)
  rw [plainNumeral, dropWhile_eq_self fun p hp => hblank p (List.mem_of_mem_head? hp),
    dropEndWhile_eq_self fun p hp => hblank p (List.mem_of_getLast? hp), ofChars, List.map_map]
  exact (List.map_congr_left hplain).trans (List.map_id cs)

/-! ## Signs and digits -/

/-- The sign of a numeral, and what is behind it. -/
def cutSign : List Char → Bool × List Char
  | '-' :: rest => (true, rest)
  | '+' :: rest => (false, rest)
  | all => (false, all)

/-- The number that is written behind a sign. -/
def signedValue? (negative : Bool) (digits : List Char) : Option Int :=
  match Numeral.dropUnderscores false digits with
  | some (d :: rest) =>
    if (d :: rest).all Char.isDigit && (d :: rest).length ≤ Numeral.maxDigits then
      some (if negative then -(Numeral.value (d :: rest) : Int) else Numeral.value (d :: rest))
    else none
  | _ => none

theorem toInt?_eq (t : Text) :
    t.toInt? = signedValue? (cutSign t.plainNumeral).1 (cutSign t.plainNumeral).2 := rfl

variable {negative : Bool} {n : Int} {ds : List Char}

theorem signedValue?_of_digits (hne : ds ≠ []) (hds : ∀ c ∈ ds, c.isDigit = true)
    (hmax : ds.length ≤ Numeral.maxDigits) (negative : Bool) :
    signedValue? negative ds =
      some (if negative then -(Numeral.value ds : Int) else Numeral.value ds) := by
  rcases List.exists_cons_of_ne_nil hne with ⟨d, rest, rfl⟩
  have hmark : '_' ∉ d :: rest := fun hmem => absurd (hds _ hmem) (by decide)
  have hall : ((d :: rest).all Char.isDigit && (d :: rest).length ≤ Numeral.maxDigits) = true := by
    rw [Bool.and_eq_true, List.all_eq_true, decide_eq_true_eq]
    exact ⟨hds, hmax⟩
  rw [signedValue?, Numeral.dropUnderscores_eq_self hmark]
  exact if_pos hall

/-- Behind the sign of a numeral stand digits, and not too many. -/
theorem exists_digits_of_signedValue? {digits : List Char} (h : signedValue? negative digits = some n) :
    ∃ ds, (∀ c ∈ ds, c.isDigit = true) ∧ ds.length ≤ Numeral.maxDigits ∧
      Numeral.value ds = n.natAbs := by
  unfold signedValue? at h
  split at h
  · rename_i d ds _
    split at h
    · rename_i hdigits
      rw [Bool.and_eq_true, List.all_eq_true, decide_eq_true_eq] at hdigits
      refine ⟨d :: ds, hdigits.1, hdigits.2, ?_⟩
      rw [← Option.some.inj h]
      split
      all_goals omega
    · exact nomatch h
  · exact nomatch h

theorem isDigit_of_mem_toDigits (n : Nat) : ∀ c ∈ Nat.toDigits 10 n, c.isDigit = true := fun _ hc =>
  Nat.isDigit_of_mem_toDigits (by decide) (by decide) hc

theorem isDigit_of_mem_ofNat {n : Nat} {p : CodePoint} (h : p ∈ ofNat n) : p.isDigit = true := by
  rcases List.mem_map.mp h with ⟨c, hc, rfl⟩
  rw [CodePoint.isDigit_char]
  exact isDigit_of_mem_toDigits n c hc

/-- A number without a sign is read as its digits. -/
theorem toInt?_ofNat (n : Nat) : (ofNat n).toInt? = signedValue? false (Nat.toDigits 10 n) := by
  have hdigits := isDigit_of_mem_toDigits n
  have hplain : plainNumeral (ofNat n) = Nat.toDigits 10 n :=
    plainNumeral_ofChars fun c hc => .inr (hdigits c hc)
  -- a digit is no sign
  have hsign : cutSign (Nat.toDigits 10 n) = (false, Nat.toDigits 10 n) := by
    unfold cutSign
    split
    · rename_i heq
      exact absurd (hdigits '-' (by simp [heq])) (by decide)
    · rename_i heq
      exact absurd (hdigits '+' (by simp [heq])) (by decide)
    · rfl
  rw [toInt?_eq, hplain, hsign]

/-- What is read of the digits of a number is that number, if they are not too many. -/
theorem eq_of_toInt?_ofNat {n : Nat} {m : Int} (h : (ofNat n).toInt? = some m) : m = n := by
  have hmark : '_' ∉ Nat.toDigits 10 n := fun hmem =>
    absurd (isDigit_of_mem_toDigits n _ hmem) (by decide)
  rw [toInt?_ofNat, signedValue?, Numeral.dropUnderscores_eq_self hmark] at h
  split at h
  · rename_i d ds heq
    split at h
    · rw [← Option.some.inj heq, Numeral.value_toDigits] at h
      exact (Option.some.inj h).symm
    · exact nomatch h
  · exact nomatch h

/-- **Numbers are read as they are written.**  What a numeral stands for is read again from what is
    written for it. -/
theorem toInt?_ofInt_of_toInt? {t : Text} (h : t.toInt? = some n) : (ofInt n).toInt? = some n := by
  rw [toInt?_eq] at h
  rcases exists_digits_of_signedValue? h with ⟨ds, hds, hmax, hvalue⟩
  have hsize : n.natAbs < 10 ^ Numeral.maxDigits := by
    rw [← hvalue]
    calc Numeral.value ds
      _ < 10 ^ ds.length := Numeral.value_lt hds
      _ ≤ 10 ^ Numeral.maxDigits := Nat.pow_le_pow_right (by decide) hmax
  have hlength : (Nat.toDigits 10 n.natAbs).length ≤ Numeral.maxDigits :=
    (Nat.length_toDigits_le_iff (by decide) (by decide)).mpr hsize
  have hdigits := isDigit_of_mem_toDigits n.natAbs
  have hvalue := signedValue?_of_digits Nat.toDigits_ne_nil hdigits hlength
  rw [Numeral.value_toDigits] at hvalue
  cases n with
  | ofNat k =>
    show (ofNat k).toInt? = _
    rw [toInt?_ofNat]
    exact hvalue false
  | negSucc k =>
    have hplain : plainNumeral (ofInt (.negSucc k)) = '-' :: Nat.toDigits 10 (k + 1) := by
      have hnumeric : IsNumeric ('-' :: Nat.toDigits 10 (k + 1)) := fun c hc =>
        (List.mem_cons.mp hc).imp_right (hdigits c)
      exact plainNumeral_ofChars hnumeric
    rw [toInt?_eq, hplain]
    exact hvalue true

end Text

end ImageDiscovery
