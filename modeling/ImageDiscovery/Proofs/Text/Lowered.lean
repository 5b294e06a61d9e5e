import ImageDiscovery.Proofs.Text.Lower
import Mathlib.Data.List.Basic

/-!
# Lowered — what is in lower case stays as it is

Nothing that the table of lower-case forms moves is moved again, and no form is one of the two points that
have a form of their own, so lower-casing twice is lower-casing once.
-/

namespace ImageDiscovery

namespace Case

/-! ## The table -/

/-- Points that are moved by one amount. -/
abbrev Run := Nat × Nat × Nat × Int

/-- A capital i with a dot, which has two points for its form, as a run by itself. -/
def dotted : Run := (0x130, 0x130, 1, 0)

/-- Does a run hold none of the points between two ends, or of every second one of them? -/
def avoids (first last : Nat) (alternate : Bool) (run : Run) : Bool :=
  -- every run is held against every other one, so these are tests that the kernel computes quickly
  Nat.blt last run.1 || Nat.blt run.2.1 first ||
    (alternate && Nat.beq run.2.2.1 2 && Nat.beq ((first + run.1) % 2) 1)

/-- Is what a run moves moved no further? -/
def movesOnce (run : Run) : Bool :=
  match run.1 + run.2.2.2, run.2.1 + run.2.2.2 with
  | .ofNat first, .ofNat last =>
    (dotted :: lowerRuns.toList).all
      (avoids first last (Nat.beq (run.2.2.1 % 2) 0 || Nat.beq run.1 run.2.1))
  | _, _ => false

theorem movesOnce_of_mem : ∀ run ∈ lowerRuns.toList, movesOnce run = true := by decide +kernel

/-- The points that a run holds. -/
def Holds (run : Run) (n : Nat) : Prop :=
  run.1 ≤ n ∧ n ≤ run.2.1 ∧ (n - run.1) % run.2.2.1 = 0

instance (run : Run) (n : Nat) : Decidable (Holds run n) := inferInstanceAs (Decidable (_ ∧ _))

/-- A point that is its own lower-case form, wherever it stands. -/
structure IsStill (n : Nat) : Prop where
  free : ∀ run ∈ lowerRuns.toList, ¬ Holds run n
  not_dotted : n ≠ 0x130

/-- The forms that are not in the table, and what is written for a point that there is not. -/
theorem free_of_mem : ∀ n ∈ [0x69, 0x307, 0x3C2, 0x3C3, 0xFFFD], ∀ run ∈ lowerRuns.toList,
    ¬ Holds run n := by decide +kernel

theorem isStill_of_mem {n : Nat} (h : n ∈ [0x69, 0x307, 0x3C2, 0x3C3, 0xFFFD]) : IsStill n := by
  refine ⟨free_of_mem n h, ?_⟩
  rintro rfl
  exact absurd h (by decide)

/-- A capital sigma is moved. -/
theorem IsStill.not_sigma {n : Nat} (h : IsStill n) : n ≠ 0x3A3 := by
  rintro rfl
  exact h.free (0x3A3, 0x3AB, 1, 32) (by decide +kernel) (by decide)

theorem find?_eq_none_iff (n : Nat) :
    lowerRuns.find? (fun (first, last, step, _) =>
      first ≤ n && n ≤ last && (n - first) % step == 0) = none ↔
      ∀ run ∈ lowerRuns.toList, ¬ Holds run n := by
  rw [Array.find?_eq_none]
  simp only [Array.mem_def, Bool.and_eq_true, decide_eq_true_eq, beq_iff_eq, Holds, and_assoc]

theorem IsStill.shift_eq {n : Nat} (h : IsStill n) : shift lowerRuns n = n := by
  rw [shift, (find?_eq_none_iff n).mpr h.free]

theorem not_holds_of_avoids {first last m : Nat} {alternate : Bool} {run : Run}
    (h : avoids first last alternate run = true) (hfirst : first ≤ m) (hlast : m ≤ last)
    (halternate : alternate = true → m % 2 = first % 2) : ¬ Holds run m := by
  simp only [avoids, Bool.or_eq_true, Bool.and_eq_true, Nat.blt_eq, Nat.beq_eq] at h
  unfold Holds
  rintro ⟨hlo, hhi, hstep⟩
  rcases h with (h | h) | ⟨⟨h, htwo⟩, hodd⟩
  · omega
  · omega
  · have hsame := halternate h
    rw [htwo] at hstep
    omega

/-- What a run moves is held by none. -/
theorem not_holds_of_holds {run other : Run} {n : Nat} (hrun : run ∈ lowerRuns.toList)
    (h : Holds run n) (hother : other ∈ dotted :: lowerRuns.toList) :
    ¬ Holds other (n + run.2.2.2 : Int).toNat := by
  have honce := movesOnce_of_mem run hrun
  rcases h with ⟨hlo, hhi, hstep⟩
  unfold movesOnce at honce
  split at honce
  · rename_i first last hfirst hlast
    simp only [Int.ofNat_eq_natCast] at hfirst hlast
    apply not_holds_of_avoids (List.all_eq_true.mp honce other hother)
    · omega
    · omega
    · -- a run of every second point is moved as one, and so is a single point
      rw [Bool.or_eq_true, Nat.beq_eq, Nat.beq_eq]
      rintro (heven | hsingle)
      · have hsecond : (n - run.1) % 2 = 0 :=
          Nat.mod_eq_zero_of_dvd
            (Nat.dvd_trans (Nat.dvd_of_mod_eq_zero heven) (Nat.dvd_of_mod_eq_zero hstep))
        omega
      · omega
  · exact nomatch honce

/-- What the table gives stays. -/
theorem isStill_shift {n : Nat} (h : n ≠ 0x130) : IsStill (shift lowerRuns n) := by
  cases hfind : lowerRuns.find? (fun (first, last, step, _) =>
      first ≤ n && n ≤ last && (n - first) % step == 0) with
  | none =>
    rw [shift, hfind]
    exact ⟨(find?_eq_none_iff n).mp hfind, h⟩
  | some run =>
    have hmem : run ∈ lowerRuns.toList := Array.mem_def.mp (Array.mem_of_find?_eq_some hfind)
    have hholds := Array.find?_some hfind
    simp only [Bool.and_eq_true, decide_eq_true_eq, beq_iff_eq] at hholds
    have hfree : ∀ other ∈ dotted :: lowerRuns.toList, ¬ Holds other (n + run.2.2.2 : Int).toNat :=
      fun other => not_holds_of_holds hmem ⟨hholds.1.1, hholds.1.2, hholds.2⟩
    rw [List.forall_mem_cons] at hfree
    rw [shift, hfind]
    refine ⟨hfree.2, ?_⟩
    intro hdotted
    apply hfree.1
    rw [show (n + run.2.2.2 : Int).toNat = 0x130 from hdotted]
    decide

end Case

namespace CodePoint

variable {p q : CodePoint}

theorem lower_of_isStill (h : Case.IsStill p.toNat) : p.lower = [p] := by
  rw [lower, if_neg h.not_dotted, h.shift_eq, ofNat, ofNat?_toNat]
  rfl

theorem isStill_toNat_ofNat {n : Nat} (h : Case.IsStill n) : Case.IsStill (ofNat n).toNat := by
  rcases toNat_ofNat n with hn | hn
  · rwa [hn]
  · rw [hn]
    exact Case.isStill_of_mem (by decide)

theorem isStill_of_mem_lower (h : q ∈ p.lower) : Case.IsStill q.toNat := by
  unfold lower at h
  split at h
  · apply Case.isStill_of_mem
    revert q
    decide +kernel
  · rename_i hdotted
    rw [List.mem_singleton.mp h]
    exact isStill_toNat_ofNat (Case.isStill_shift hdotted)

theorem lower_ne_nil (p : CodePoint) : p.lower ≠ [] := by
  unfold lower
  split
  · exact List.cons_ne_nil _ _
  · exact List.cons_ne_nil _ _

end CodePoint

namespace Text

variable {before t : Text} {q : CodePoint}

/-! ## Lower-casing twice -/

theorem isStill_of_mem_lowerFrom (h : q ∈ lowerFrom before t) : Case.IsStill q.toNat := by
  induction t generalizing before with
  | nil => exact nomatch h
  | cons p rest ih =>
    rw [lowerFrom, List.mem_append] at h
    rcases h with h | h
    · split at h
      · split at h
        · rw [List.mem_singleton.mp h]
          exact CodePoint.isStill_toNat_ofNat (Case.isStill_of_mem (by decide))
        · rw [List.mem_singleton.mp h]
          exact CodePoint.isStill_toNat_ofNat (Case.isStill_of_mem (by decide))
      · exact CodePoint.isStill_of_mem_lower h
    · exact ih h

theorem lowerFrom_eq_self (h : ∀ p ∈ t, Case.IsStill p.toNat) : lowerFrom before t = t := by
  induction t generalizing before with
  | nil => rfl
  | cons p rest ih =>
    rw [List.forall_mem_cons] at h
    rw [lowerFrom, if_neg h.1.not_sigma, CodePoint.lower_of_isStill h.1, ih h.2]
    rfl

/-- A text in lower case is its own lower-case form. -/
theorem lower_lower (t : Text) : t.lower.lower = t.lower := by
  by_cases hascii : t.lower.isAscii = true
  · -- then no letter of it is a capital one
    rw [lower, if_pos hascii]
    exact asciiLower_eq_self fun q hq => asciiLower_of_mem_lower hq
  · have hnot : ¬ t.isAscii = true := by
      intro h
      apply hascii
      rw [lower, if_pos h]
      rw [isAscii, List.all_eq_true] at h ⊢
      intro q hq
      rcases List.mem_map.mp hq with ⟨p, hp, rfl⟩
      have hpoint := h p hp
      have hmoved := p.toNat_asciiLower
      simp only [CodePoint.isAscii, decide_eq_true_eq] at hpoint ⊢
      split at hmoved
      all_goals omega
    have hform : t.lower = lowerFrom [] t := by rw [lower, if_neg hnot]
    rw [lower, if_neg hascii]
    apply lowerFrom_eq_self
    rw [hform]
    exact fun q hq => isStill_of_mem_lowerFrom hq

theorem lower_ne_nil (h : t ≠ []) : t.lower ≠ [] := by
  rcases List.exists_cons_of_ne_nil h with ⟨p, rest, rfl⟩
  unfold lower
  split
  · exact List.cons_ne_nil _ _
  · rw [lowerFrom]
    apply List.append_ne_nil_of_left_ne_nil
    split
    · split <;> exact List.cons_ne_nil _ _
    · exact p.lower_ne_nil

/-! ## Points of lower-case forms -/

/-- What holds of ASCII, is kept by the table, and holds of the points that are not in it, is kept when a
    text is lower-cased. -/
theorem forall_mem_lower {holds : Nat → Prop} (hascii : ∀ n < 0x80, holds n)
    (hshift : ∀ n, holds n → holds (Case.shift Case.lowerRuns n))
    (hother : ∀ n ∈ [0x307, 0x3C2, 0x3C3, 0xFFFD], holds n) (h : ∀ p ∈ t, holds p.toNat) :
    ∀ q ∈ t.lower, holds q.toNat := by
  have hpoint : ∀ n, holds n → holds (CodePoint.ofNat n).toNat := by
    intro n hn
    rcases CodePoint.toNat_ofNat n with hsame | hsame
    · rwa [hsame]
    · rw [hsame]
      exact hother _ (by decide)
  have hform : ∀ p : CodePoint, holds p.toNat → ∀ q ∈ p.lower, holds q.toNat := by
    intro p hp
    unfold CodePoint.lower
    split
    · rw [List.forall_mem_cons, List.forall_mem_singleton]
      exact ⟨hascii _ (by decide), hpoint _ (hother _ (by decide))⟩
    · rw [List.forall_mem_singleton]
      exact hpoint _ (hshift _ hp)
  have hfrom : ∀ before, ∀ q ∈ lowerFrom before t, holds q.toNat := by
    induction t with
    | nil => exact fun _ => nofun
    | cons p rest ih =>
      intro before
      rw [List.forall_mem_cons] at h
      rw [lowerFrom, List.forall_mem_append]
      refine ⟨?_, ih h.2 _⟩
      split
      · split
        · rw [List.forall_mem_singleton]
          exact hpoint _ (hother _ (by decide))
        · rw [List.forall_mem_singleton]
          exact hpoint _ (hother _ (by decide))
      · exact hform p h.1
  intro q hq
  unfold lower at hq
  split at hq
  · rename_i hall
    rcases List.mem_map.mp hq with ⟨p, hp, rfl⟩
    have hbound := List.all_eq_true.mp hall p hp
    have hmoved := p.toNat_asciiLower
    simp only [CodePoint.isAscii, decide_eq_true_eq] at hbound
    apply hascii
    split at hmoved
    all_goals omega
  · exact hfrom [] q hq

/-! ## Marks -/

theorem count_cons_append_le {p : CodePoint} {form rest rest' : Text}
    (hform : form.count q ≤ [p].count q) (hrest : rest.count q ≤ rest'.count q) :
    (form ++ rest).count q ≤ (p :: rest').count q := by
  rw [← List.singleton_append, List.count_append, List.count_append]
  exact Nat.add_le_add hform hrest

/-- A form of one point that may be a mark only if it is the form of that mark. -/
theorem count_singleton_le {p r : CodePoint} (hq : q.toNat ≤ 0x60) (h : r = p ∨ 0x60 < r.toNat) :
    [r].count q ≤ [p].count q := by
  rcases h with rfl | hlt
  · exact Nat.le_refl _
  · have hnot : q ∉ [r] := by
      intro hmem
      rw [List.mem_singleton.mp hmem] at hq
      omega
    rw [List.count_eq_zero_of_not_mem hnot]
    exact Nat.zero_le _

theorem count_lowerFrom_le (hq : q.toNat ≤ 0x60) (before t : Text) :
    (lowerFrom before t).count q ≤ t.count q := by
  induction t generalizing before with
  | nil => exact Nat.le_refl _
  | cons p rest ih =>
    rw [lowerFrom]
    refine count_cons_append_le ?_ (ih _)
    split
    · split
      · exact count_singleton_le hq (.inr (CodePoint.lt_toNat_ofNat (by decide)))
      · exact count_singleton_le hq (.inr (CodePoint.lt_toNat_ofNat (by decide)))
    · by_cases hmem : q ∈ p.lower
      · have hsame : q = p := (CodePoint.eq_or_lt_of_mem_lower hmem).resolve_right (by omega)
        have hdotted : ¬ p.toNat = 0x130 := by
          rw [← hsame]
          omega
        rw [CodePoint.lower, if_neg hdotted] at hmem ⊢
        exact count_singleton_le hq (.inl ((List.mem_singleton.mp hmem).symm.trans hsame))
      · rw [List.count_eq_zero_of_not_mem hmem]
        exact Nat.zero_le _

/-- No mark in front of the small letters comes into a text when it is lower-cased, not even once more. -/
theorem count_lower_le (hq : q.toNat ≤ 0x60) (t : Text) : t.lower.count q ≤ t.count q := by
  unfold lower
  split
  · induction t with
    | nil => exact Nat.le_refl _
    | cons p rest ih =>
      rename_i hascii
      rw [isAscii, List.all_cons, Bool.and_eq_true] at hascii
      exact count_cons_append_le (count_singleton_le hq p.asciiLower_eq_or_lt) (ih hascii.2)
  · exact count_lowerFrom_le hq [] t

end Text

end ImageDiscovery
