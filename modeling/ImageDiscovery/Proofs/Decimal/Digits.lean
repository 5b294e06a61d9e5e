import ImageDiscovery.Decimal.Notation

/-!
# Digits — what numbers are written with

A number is written without zeros in front, and its digits are read as that number.  The shortest
digits of a double above zero are those of a number that is not zero, so they begin with another digit.
-/

namespace ImageDiscovery

namespace Numeral

theorem value_toDigits (n : Nat) : value (Nat.toDigits 10 n) = n :=
  Nat.ofDigitChars_toDigits (by decide) (by decide)

theorem digitChar_ne_zero {n : Nat} (hn : n ≠ 0) (h : n < 10) : Nat.digitChar n ≠ '0' := by
  have hall : ∀ d : Fin 10, d.val ≠ 0 → Nat.digitChar d ≠ '0' := by decide
  exact hall ⟨n, h⟩ hn

/-- Only zero is written with a zero in front. -/
theorem head?_toDigits {n : Nat} (h : n ≠ 0) : (Nat.toDigits 10 n).head? ≠ some '0' := by
  induction n using Nat.strongRecOn with
  | ind n ih =>
    rw [Nat.toDigits_eq_if (by decide)]
    split
    · rename_i hsmall
      simpa using digitChar_ne_zero h hsmall
    · have hfront : n / 10 ≠ 0 := by omega
      have hrest := ih (n / 10) (by omega) hfront
      obtain ⟨d, ds, hdigits⟩ := List.exists_cons_of_ne_nil (Nat.toDigits_ne_nil (b := 10) (n := n / 10))
      rw [hdigits] at hrest ⊢
      exact hrest

theorem tenTo_pos (n : Nat) : 0 < tenTo n := Nat.pow_pos (by decide)

theorem tenTo_succ (n : Nat) : tenTo (n + 1) = tenTo n * 10 := Nat.pow_succ ..

/-- A number has as many digits as its size says. -/
theorem tenTo_le_and_lt {n : Nat} (h : n ≠ 0) :
    tenTo ((Nat.toDigits 10 n).length - 1) ≤ n ∧ n < tenTo (Nat.toDigits 10 n).length := by
  have hpos : 0 < (Nat.toDigits 10 n).length := Nat.length_toDigits_pos
  constructor
  · by_cases hone : (Nat.toDigits 10 n).length = 1
    · rw [hone]
      exact Nat.pos_of_ne_zero h
    · have hlonger : ¬ (Nat.toDigits 10 n).length ≤ (Nat.toDigits 10 n).length - 1 := by omega
      rw [Nat.length_toDigits_le_iff (by decide) (by omega)] at hlonger
      exact Nat.le_of_not_lt hlonger
  · exact (Nat.length_toDigits_le_iff (by decide) hpos).mp (Nat.le_refl _)

end Numeral

open Numeral

namespace Shortest

/-- A target with bounds above zero. -/
structure Target.IsPositive (t : Target) : Prop where
  value : 0 < t.value
  low : 0 < t.low
  high : 0 < t.high
  denominator : 0 < t.denominator

/-- The value is at least a power of ten. -/
def Target.Reaches (t : Target) (power : Int) : Prop :=
  t.denominator * tenTo power.toNat ≤ t.value * tenTo (-power).toNat

variable {t : Target}

theorem Target.Reaches.finer {power : Int} (h : t.Reaches power) : t.Reaches (power - 1) := by
  unfold Reaches at h ⊢
  by_cases hpower : 0 < power
  · have hplus : power.toNat = (power - 1).toNat + 1 := by omega
    have hminus : (-(power - 1)).toNat = (-power).toNat := by omega
    rw [hplus, tenTo_succ, ← Nat.mul_assoc] at h
    rw [hminus]
    omega
  · have hplus : (power - 1).toNat = power.toNat := by omega
    have hminus : (-(power - 1)).toNat = (-power).toNat + 1 := by omega
    rw [hplus, hminus, tenTo_succ, ← Nat.mul_assoc]
    omega

theorem Target.reaches_magnitude (h : t.IsPositive) : t.Reaches t.magnitude := by
  have hden := h.denominator
  have hvalue := h.value
  unfold magnitude
  split
  · rename_i hle
    have hquotient : t.value / t.denominator ≠ 0 := Nat.ne_of_gt (Nat.div_pos hle hden)
    have hsize := (tenTo_le_and_lt hquotient).1
    have hpos : 0 < (Nat.toDigits 10 (t.value / t.denominator)).length := Nat.length_toDigits_pos
    generalize (Nat.toDigits 10 (t.value / t.denominator)).length = k at hsize hpos ⊢
    have hplus : ((k : Int) - 1).toNat = k - 1 := by omega
    have hminus : (-((k : Int) - 1)).toNat = 0 := by omega
    rw [Reaches, hplus, hminus]
    show _ ≤ t.value * 1
    calc t.denominator * tenTo (k - 1)
      _ ≤ t.denominator * (t.value / t.denominator) := Nat.mul_le_mul_left _ hsize
      _ ≤ t.value := Nat.mul_div_le _ _
      _ = t.value * 1 := (Nat.mul_one _).symm
  · rename_i hlt
    have hquotient : t.denominator / t.value ≠ 0 :=
      Nat.ne_of_gt (Nat.div_pos (Nat.le_of_not_le hlt) hvalue)
    have hsize := (tenTo_le_and_lt hquotient).2
    have hpos : 0 < (Nat.toDigits 10 (t.denominator / t.value)).length := Nat.length_toDigits_pos
    generalize (Nat.toDigits 10 (t.denominator / t.value)).length = k at hsize hpos ⊢
    dsimp only
    split
    · rename_i hexact
      have hplus : (1 - (k : Int)).toNat = 0 := by omega
      have hminus : (-(1 - (k : Int))).toNat = k - 1 := by omega
      rw [Reaches, hplus, hminus]
      show t.denominator * 1 ≤ _
      rwa [Nat.mul_one]
    · have hplus : (-(k : Int)).toNat = 0 := by omega
      have hminus : (-(-(k : Int))).toNat = k := by omega
      rw [Reaches, hplus, hminus]
      show t.denominator * 1 ≤ _
      rw [Nat.mul_one, Nat.mul_comm]
      exact Nat.le_of_lt ((Nat.div_lt_iff_lt_mul hvalue).mp hsize)

theorem Target.holds_zero (h : t.IsPositive) (power : Int) : t.holds 0 power = false := by
  have hden := tenTo_pos (-power).toNat
  have hlow : 0 < t.low * tenTo (-power).toNat := Nat.mul_pos h.low hden
  have hhigh : 0 < t.high * tenTo (-power).toNat := Nat.mul_pos h.high hden
  unfold holds
  simp only [Nat.zero_mul]
  simp [Nat.ne_of_lt hlow, Nat.ne_of_lt hhigh]

theorem Target.onGrid_ne_zero (h : t.IsPositive) {power : Int} {digits : Nat}
    (hgrid : t.onGrid power = some digits) : digits ≠ 0 := by
  -- of the two neighbours only the lower one may be zero, and that is not taken
  unfold onGrid at hgrid
  dsimp only at hgrid
  rintro rfl
  split at hgrid
  · rename_i hbelow _
    split at hgrid
    · rw [Option.some.inj hgrid, holds_zero h] at hbelow
      exact nomatch hbelow
    · exact absurd (Option.some.inj hgrid) (Nat.succ_ne_zero _)
  · rename_i hbelow _
    rw [Option.some.inj hgrid, holds_zero h] at hbelow
    exact nomatch hbelow
  · exact absurd (Option.some.inj hgrid) (Nat.succ_ne_zero _)
  · exact nomatch hgrid

theorem Target.search_ne_zero (h : t.IsPositive) {power : Int} (hreaches : t.Reaches power)
    (finer : Nat) : (t.search power finer).1 ≠ 0 := by
  induction finer generalizing power with
  | zero =>
    have hden : 0 < t.denominator * tenTo power.toNat := Nat.mul_pos h.denominator (tenTo_pos _)
    exact Nat.ne_of_gt (Nat.div_pos hreaches hden)
  | succ finer ih =>
    unfold search
    split
    · rename_i digits hgrid
      exact onGrid_ne_zero h hgrid
    · exact ih hreaches.finer

theorem isPositive_of {x : Binary64} (h : x.significand ≠ 0) : (Target.of x).IsPositive := by
  have hup : 0 < 1 <<< (x.scale - 1074) := by
    rw [Nat.one_shiftLeft]
    exact Nat.two_pow_pos _
  have hdenominator : 0 < 4 <<< (1074 - x.scale) := by
    rw [Nat.shiftLeft_eq]
    exact Nat.mul_pos (by decide) (Nat.two_pow_pos _)
  constructor
  · exact Nat.mul_pos (by omega) hup
  · apply Nat.mul_pos _ hup
    split <;> omega
  · exact Nat.mul_pos (by omega) hup
  · exact hdenominator

theorem digits_ne_zero {x : Binary64} (h : x.significand ≠ 0) : (digits x).1 ≠ 0 :=
  Target.search_ne_zero (isPositive_of h) (Target.reaches_magnitude (isPositive_of h)) 17

end Shortest

end ImageDiscovery
