import ImageDiscovery.Proofs.Text.Utf8
import ImageDiscovery.Text.Case

/-!
# Lower case — letters of ASCII

Lower-case forms of ASCII letters: what they change, and that once is enough.  The lower-case form of a
text of any script holds no capital letter of ASCII either.
-/

namespace ImageDiscovery

namespace CodePoint

private theorem toNat_toLower (c : Char) :
    c.toLower.toNat = if 0x41 ≤ c.toNat ∧ c.toNat ≤ 0x5A then c.toNat + 32 else c.toNat := by
  unfold Char.toLower
  by_cases h : c.val ≥ 'A'.val ∧ c.val ≤ 'Z'.val
  · have hlo : 0x41 ≤ c.toNat := UInt32.le_iff_toNat_le.mp h.1
    have hhi : c.toNat ≤ 0x5A := UInt32.le_iff_toNat_le.mp h.2
    rw [dif_pos h, if_pos ⟨hlo, hhi⟩]
    show (c.val + 32).toNat = _
    rw [UInt32.toNat_add]
    show (c.toNat + 32) % 4294967296 = _
    omega
  · rw [dif_neg h, if_neg]
    rintro ⟨hlo, hhi⟩
    exact h ⟨UInt32.le_iff_toNat_le.mpr hlo, UInt32.le_iff_toNat_le.mpr hhi⟩

theorem toNat_asciiLower (p : CodePoint) :
    p.asciiLower.toNat = if 0x41 ≤ p.toNat ∧ p.toNat ≤ 0x5A then p.toNat + 32 else p.toNat := by
  cases p with
  | char c => exact toNat_toLower c
  | lone half =>
    rw [if_neg]
    · rfl
    · show ¬ (0x41 ≤ 0xD800 + half.val ∧ 0xD800 + half.val ≤ 0x5A)
      omega

theorem asciiLower_of_not_upper {p : CodePoint} (h : ¬ (0x41 ≤ p.toNat ∧ p.toNat ≤ 0x5A)) :
    p.asciiLower = p := by
  cases p with
  | lone half => rfl
  | char c =>
    have hval : ¬ (c.val ≥ 'A'.val ∧ c.val ≤ 'Z'.val) := fun hv =>
      h ⟨UInt32.le_iff_toNat_le.mp hv.1, UInt32.le_iff_toNat_le.mp hv.2⟩
    show CodePoint.char c.toLower = .char c
    unfold Char.toLower
    rw [dif_neg hval]

theorem asciiLower_asciiLower (p : CodePoint) : p.asciiLower.asciiLower = p.asciiLower := by
  apply asciiLower_of_not_upper
  rw [toNat_asciiLower]
  split <;> omega

theorem isLetter_asciiLower {p : CodePoint} (h : p.isLetter = true) :
    p.asciiLower.isLetter = true := by
  simp only [isLetter, Bool.or_eq_true, Bool.and_eq_true, decide_eq_true_eq] at h ⊢
  rw [toNat_asciiLower]
  split <;> omega

/-- Only letters are changed, and they stay letters. -/
theorem asciiLower_eq_or_isLetter (p : CodePoint) :
    p.asciiLower = p ∨ p.asciiLower.isLetter = true := by
  by_cases hupper : 0x41 ≤ p.toNat ∧ p.toNat ≤ 0x5A
  · right
    apply isLetter_asciiLower
    rw [isLetter, Bool.or_eq_true, Bool.and_eq_true, decide_eq_true_eq, decide_eq_true_eq]
    exact .inl hupper
  · exact .inl (asciiLower_of_not_upper hupper)

theorem asciiLower_eq_or_lt (p : CodePoint) : p.asciiLower = p ∨ 0x60 < p.asciiLower.toNat := by
  by_cases hupper : 0x41 ≤ p.toNat ∧ p.toNat ≤ 0x5A
  · rw [p.toNat_asciiLower, if_pos hupper]
    omega
  · exact .inl (asciiLower_of_not_upper hupper)

end CodePoint

theorem Text.asciiLower_asciiLower (t : Text) : t.asciiLower.asciiLower = t.asciiLower := by
  unfold Text.asciiLower
  rw [List.map_map]
  exact List.map_congr_left fun p _ => p.asciiLower_asciiLower

theorem Text.asciiLower_eq_self {t : Text} (h : ∀ p ∈ t, p.asciiLower = p) : t.asciiLower = t := by
  rw [Text.asciiLower, List.map_congr_left h, List.map_id']

/-! ## Texts of any script -/

/-- A capital letter of ASCII, by its number. -/
def IsCapital (n : Nat) : Prop := 0x41 ≤ n ∧ n ≤ 0x5A

/-- The runs take nothing to a capital letter: each ends below them or begins behind them. -/
theorem Case.lowerRuns_avoid : ∀ run ∈ lowerRuns.toList,
    run.2.1 + run.2.2.2 < 0x41 ∨ 0x5A < run.1 + run.2.2.2 := by decide +kernel

theorem Case.not_isCapital_shift (n : Nat) : ¬ IsCapital (shift lowerRuns n) := by
  unfold shift IsCapital
  split
  · rename_i first last step amount hfind
    have hmem := Array.mem_of_find?_eq_some hfind
    have hruns := lowerRuns_avoid _ (Array.mem_def.mp hmem)
    have hholds := Array.find?_some hfind
    simp only [Bool.and_eq_true, decide_eq_true_eq] at hruns hholds
    omega
  · -- capital letters are in the first run, so they are not met here
    rename_i hnone
    intro hcapital
    have hfirst := Array.find?_eq_none.mp hnone (0x41, 0x5A, 1, 32) (by decide +kernel)
    simp only [Bool.and_eq_true, decide_eq_true_eq, Nat.mod_one, beq_self_eq_true, and_true] at hfirst
    exact hfirst hcapital

/-- A run takes what it moves behind the capital letters of ASCII and the marks that follow them. -/
theorem Case.lt_of_lowerRuns : ∀ run ∈ lowerRuns.toList, 0x60 < run.1 + run.2.2.2 := by decide +kernel

theorem Case.shift_lowerRuns_eq_or (n : Nat) : shift lowerRuns n = n ∨ 0x60 < shift lowerRuns n := by
  unfold shift
  split
  · rename_i first last step amount hfind
    have hrun := lt_of_lowerRuns _ (Array.mem_def.mp (Array.mem_of_find?_eq_some hfind))
    have hholds := Array.find?_some hfind
    simp only [Bool.and_eq_true, decide_eq_true_eq] at hrun hholds
    right
    omega
  · exact .inl rfl

namespace CodePoint

theorem not_isCapital_of_asciiLower {p : CodePoint} (h : p.asciiLower = p) :
    ¬ IsCapital p.toNat := by
  intro hcapital
  have hmoved := p.toNat_asciiLower
  unfold IsCapital at hcapital
  rw [h, if_pos hcapital] at hmoved
  omega

theorem toNat_ofNat (n : Nat) : (ofNat n).toNat = n ∨ (ofNat n).toNat = 0xFFFD := by
  unfold ofNat
  cases h : ofNat? n with
  | none => exact .inr rfl
  | some p => exact .inl (toNat_of_ofNat? h)

theorem not_isCapital_ofNat {n : Nat} (h : ¬ IsCapital n) : ¬ IsCapital (ofNat n).toNat := by
  rcases toNat_ofNat n with hn | hn
  · rw [hn]
    exact h
  · rw [hn]
    unfold IsCapital
    omega

theorem not_isCapital_lower (p : CodePoint) : ∀ q ∈ p.lower, ¬ IsCapital q.toNat := by
  unfold lower
  split
  · unfold IsCapital
    decide +kernel
  · rw [List.forall_mem_singleton]
    exact not_isCapital_ofNat (Case.not_isCapital_shift _)

theorem lt_toNat_ofNat {n : Nat} (h : 0x60 < n) : 0x60 < (ofNat n).toNat := by
  rcases toNat_ofNat n with hn | hn
  · rwa [hn]
  · rw [hn]
    decide

theorem eq_or_lt_of_mem_lower {p q : CodePoint} (h : q ∈ p.lower) : q = p ∨ 0x60 < q.toNat := by
  unfold lower at h
  split at h
  · right
    revert q
    decide +kernel
  · rw [List.mem_singleton] at h
    rcases Case.shift_lowerRuns_eq_or p.toNat with hsame | hmoved
    · rw [h, hsame, ofNat, ofNat?_toNat]
      exact .inl rfl
    · rw [h]
      exact .inr (lt_toNat_ofNat hmoved)

end CodePoint

namespace Text

theorem not_isCapital_lowerFrom (before t : Text) : ∀ q ∈ lowerFrom before t, ¬ IsCapital q.toNat := by
  induction t generalizing before with
  | nil => exact nofun
  | cons p rest ih =>
    rw [lowerFrom, List.forall_mem_append]
    refine ⟨?_, ih _⟩
    -- a capital sigma has two forms, and neither is ASCII
    split
    · have hsigma : ∀ n, 0x5A < n → ¬ IsCapital n := by
        intro n hn
        unfold IsCapital
        omega
      split
      · rw [List.forall_mem_singleton]
        exact CodePoint.not_isCapital_ofNat (hsigma _ (by decide))
      · rw [List.forall_mem_singleton]
        exact CodePoint.not_isCapital_ofNat (hsigma _ (by decide))
    · exact p.not_isCapital_lower

/-- Nothing in a lower-case form is changed when its ASCII letters are lower-cased. -/
theorem asciiLower_of_mem_lower {t : Text} {q : CodePoint} (h : q ∈ t.lower) : q.asciiLower = q := by
  unfold lower at h
  split at h
  · rcases List.mem_map.mp h with ⟨p, -, rfl⟩
    exact p.asciiLower_asciiLower
  · exact CodePoint.asciiLower_of_not_upper (not_isCapital_lowerFrom [] t q h)

theorem mem_or_lt_of_mem_lowerFrom {before t : Text} {q : CodePoint} (h : q ∈ lowerFrom before t) :
    q ∈ t ∨ 0x60 < q.toNat := by
  induction t generalizing before with
  | nil => exact nomatch h
  | cons p rest ih =>
    rw [lowerFrom, List.mem_append] at h
    rcases h with h | h
    · split at h
      · right
        split at h <;> rw [List.mem_singleton.mp h] <;> exact CodePoint.lt_toNat_ofNat (by decide)
      · rcases CodePoint.eq_or_lt_of_mem_lower h with rfl | hlt
        · exact .inl List.mem_cons_self
        · exact .inr hlt
    · exact (ih h).imp_left (.tail _)

/-- No mark comes into a text when it is lower-cased: all that is new stands behind the marks. -/
theorem mem_or_lt_of_mem_lower {t : Text} {q : CodePoint} (h : q ∈ t.lower) :
    q ∈ t ∨ 0x60 < q.toNat := by
  unfold lower at h
  split at h
  · rcases List.mem_map.mp h with ⟨p, hp, rfl⟩
    rcases p.asciiLower_eq_or_lt with hsame | hlt
    · exact .inl (hsame.symm ▸ hp)
    · exact .inr hlt
  · exact mem_or_lt_of_mem_lowerFrom h

end Text

end ImageDiscovery
