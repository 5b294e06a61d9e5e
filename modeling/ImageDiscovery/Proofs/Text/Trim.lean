import ImageDiscovery.Proofs.Text.Split
import ImageDiscovery.Text.Blank
import Mathlib.Data.List.TakeWhile

/-!
# Trimming — texts without the blanks around them

Trimming takes the blanks off both ends of a text and leaves all else as it is.  There is one text that
is left, so this says what `Text.trim` gives.
-/

namespace ImageDiscovery

namespace Text

/-- Nothing but blanks, or nothing at all. -/
def IsBlank (t : Text) : Prop := ∀ p ∈ t, p.isBlank = true

/-- What is left of a text without the blanks at both its ends. -/
structure IsTrimmed (t core : Text) : Prop where
  around : ∃ before after, t = before ++ core ++ after ∧ IsBlank before ∧ IsBlank after
  first : ∀ p ∈ core.head?, p.isBlank = false
  last : ∀ p ∈ core.getLast?, p.isBlank = false

theorem isTrimmed_trim (t : Text) : IsTrimmed t t.trim := by
  have ⟨ending, hrest, hending⟩ := exists_dropEndWhile (t.dropWhile CodePoint.isBlank) CodePoint.isBlank
  have hbeginning : IsBlank (t.takeWhile CodePoint.isBlank) :=
    fun p hp => List.all_eq_true.mp List.all_takeWhile p hp
  refine ⟨⟨_, ending, ?_, hbeginning, hending⟩, ?_, getLast?_dropEndWhile_eq_false _ _⟩
  · rw [List.append_assoc, trim, ← hrest, List.takeWhile_append_dropWhile]
  · -- what is left begins with what is behind the first blanks
    intro p hp
    apply head?_dropWhile_eq_false t CodePoint.isBlank p
    rw [hrest, List.head?_append]
    show Option.or (trim t).head? _ = _
    rw [Option.mem_def.mp hp, Option.some_or]

theorem IsTrimmed.trim_eq {t core : Text} (h : IsTrimmed t core) : t.trim = core := by
  have ⟨before, after, ht, hbefore, hafter⟩ := h.around
  have hdrop : t.dropWhile CodePoint.isBlank = (core ++ after).dropWhile CodePoint.isBlank := by
    rw [ht, List.append_assoc, List.dropWhile_append_of_pos hbefore]
  rw [trim, hdrop]
  cases core with
  | nil =>
    -- blanks alone are taken for the beginning, and leave no ending
    have hnil : after.dropWhile CodePoint.isBlank = [] := List.dropWhile_eq_nil_iff.mpr hafter
    rw [List.nil_append, hnil]
    rfl
  | cons p core =>
    have hfirst : ∀ q ∈ (p :: core ++ after).head?, q.isBlank = false := h.first
    rw [dropWhile_eq_self hfirst, dropEndWhile_append_of_pos hafter, dropEndWhile_eq_self h.last]

/-- What neither begins nor ends in a blank is trimmed already. -/
theorem trim_eq_self {t : Text} (hfirst : ∀ p ∈ t.head?, p.isBlank = false)
    (hlast : ∀ p ∈ t.getLast?, p.isBlank = false) : t.trim = t :=
  IsTrimmed.trim_eq ⟨⟨[], [], by simp, nofun, nofun⟩, hfirst, hlast⟩

theorem trim_eq_nil_iff {t : Text} : t.trim = [] ↔ IsBlank t := by
  constructor
  · intro h
    have ⟨before, after, ht, hbefore, hafter⟩ := (isTrimmed_trim t).around
    rw [h, List.append_nil] at ht
    rw [ht]
    exact List.forall_mem_append.mpr ⟨hbefore, hafter⟩
  · intro h
    exact IsTrimmed.trim_eq ⟨⟨t, [], by simp, h, nofun⟩, nofun, nofun⟩

/-- What is no blank is left as often as it was there. -/
theorem IsTrimmed.count_eq {t core : Text} (h : IsTrimmed t core) {p : CodePoint}
    (hp : p.isBlank = false) : core.count p = t.count p := by
  have ⟨before, after, ht, hbefore, hafter⟩ := h.around
  have hnone : ∀ {blanks : Text}, IsBlank blanks → blanks.count p = 0 := by
    intro blanks hblanks
    apply List.count_eq_zero_of_not_mem
    intro hmem
    exact absurd (hblanks p hmem) (by simp [hp])
  rw [ht, List.count_append, List.count_append, hnone hbefore, hnone hafter]
  omega

end Text

end ImageDiscovery
