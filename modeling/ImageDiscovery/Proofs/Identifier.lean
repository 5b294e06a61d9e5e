import ImageDiscovery.App
import ImageDiscovery.Proofs.Text.Split

/-!
# Identifiers — the code points that names are made of

Identifiers hold word points and separators, and at most a newline besides, so whatever else marks
something in a text, such as a brace, is in none of them.
-/

namespace ImageDiscovery

namespace Identifier

/-- What may stand in an identifier. -/
def isPoint (p : CodePoint) : Bool := isWordPoint p || isSeparator p || p = .char '\n'

theorem isChar_of_isPoint {p : CodePoint} (h : isPoint p = true) : p.isChar = true := by
  cases p with
  | char c => rfl
  | lone half =>
    have hnumber : (CodePoint.lone half).toNat = 0xD800 + half.val := rfl
    simp only [isPoint, isWordPoint, isSeparator, CodePoint.isDigit, hnumber, Bool.or_eq_true,
      Bool.and_eq_true, decide_eq_true_eq, reduceCtorEq, or_false] at h
    omega

theorem isPoint_of_accepts {inRun : Bool} {t : Text} (h : accepts inRun t = true) :
    ∀ p ∈ t, isPoint p = true := by
  induction t generalizing inRun with
  | nil => simp
  | cons p rest ih =>
    rw [accepts] at h
    rw [List.forall_mem_cons, isPoint]
    split at h
    · rename_i hword
      exact ⟨by simp [hword], ih h⟩
    · split at h
      · rename_i hsep
        rw [Bool.and_eq_true] at h
        exact ⟨by simp [hsep], ih h.2⟩
      · rw [Bool.and_eq_true, Bool.and_eq_true, List.isEmpty_iff] at h
        rcases h with ⟨⟨-, hline⟩, rfl⟩
        exact ⟨by simp [hline], by simp⟩

/-- Behind a separator, a run has to begin. -/
theorem accepts_of_separator {inRun : Bool} {before rest : Text} {p : CodePoint}
    (hword : isWordPoint p = false) (hsep : isSeparator p = true)
    (h : accepts inRun (before ++ p :: rest) = true) : accepts false rest = true := by
  induction before generalizing inRun with
  | nil =>
    rw [List.nil_append, accepts, hword, if_neg (by decide), if_pos hsep, Bool.and_eq_true] at h
    exact h.2
  | cons q before ih =>
    rw [List.cons_append, accepts] at h
    split at h
    · exact ih h
    · split at h
      · exact ih (Bool.and_eq_true_iff.mp h).2
      · simp at h

/-- In front of a separator, a run has ended. -/
theorem accepts_before_separator {inRun : Bool} {before rest : Text} {p : CodePoint}
    (hword : isWordPoint p = false) (hsep : isSeparator p = true)
    (h : accepts inRun (before ++ p :: rest) = true) : accepts inRun before = true := by
  induction before generalizing inRun with
  | nil =>
    rw [List.nil_append, accepts, hword, if_neg (by decide), if_pos hsep, Bool.and_eq_true] at h
    exact h.1
  | cons q before ih =>
    rw [List.cons_append, accepts] at h
    rw [accepts]
    by_cases hqword : isWordPoint q = true
    · rw [if_pos hqword] at h ⊢
      exact ih h
    · rw [if_neg hqword] at h ⊢
      by_cases hqsep : isSeparator q = true
      · rw [if_pos hqsep, Bool.and_eq_true] at h ⊢
        exact ⟨h.1, ih h.2⟩
      · -- a newline would end the text, but there is more behind it
        rw [if_neg hqsep] at h
        simp at h

/-- Nothing stands behind a newline. -/
theorem eq_nil_of_accepts_newline {inRun : Bool} {before rest : Text}
    (h : accepts inRun (before ++ .char '\n' :: rest) = true) : rest = [] := by
  induction before generalizing inRun with
  | nil =>
    rw [List.nil_append, accepts, if_neg (by decide), if_neg (by decide), Bool.and_eq_true] at h
    exact List.isEmpty_iff.mp h.2
  | cons q before ih =>
    rw [List.cons_append, accepts] at h
    split at h
    · exact ih h
    · split at h
      · exact ih (Bool.and_eq_true_iff.mp h).2
      · simp at h

/-- Does a text begin with a point of runs? -/
def beginsRun (t : Text) : Bool := t.head?.any isWordPoint

/-- A run begins behind each slash, and at the beginning unless one has begun before. -/
theorem beginsRun_of_accepts {inRun : Bool} {t : Text} (h : accepts inRun t = true) :
    ∃ first others, t.split (.char '/') = first :: others ∧ (inRun = false → beginsRun first = true) ∧
      ∀ segment ∈ others, beginsRun segment = true := by
  induction t generalizing inRun with
  | nil =>
    have hrun : inRun = true := h
    refine ⟨[], [], rfl, ?_, nofun⟩
    rw [hrun]
    exact nofun
  | cons p rest ih =>
    rw [accepts] at h
    split at h
    · rename_i hword
      rcases ih h with ⟨first, others, hsplit, -, hothers⟩
      have hslash : p ≠ .char '/' := by
        rintro rfl
        exact absurd hword (by decide)
      exact ⟨p :: first, others, Text.split_cons_of_ne hslash hsplit, fun _ => hword, hothers⟩
    · split at h
      · rw [Bool.and_eq_true] at h
        rcases ih h.2 with ⟨first, others, hsplit, hfirst, hothers⟩
        have hbegun : ∀ segment : Text, inRun = false → beginsRun segment = true := by
          intro _ hnot
          rw [hnot] at h
          exact nomatch h.1
        by_cases hslash : p = .char '/'
        · refine ⟨[], first :: others, ?_, hbegun _, ?_⟩
          · rw [hslash, Text.split_cons_self, hsplit]
          · rw [List.forall_mem_cons]
            exact ⟨hfirst rfl, hothers⟩
        · exact ⟨p :: first, others, Text.split_cons_of_ne hslash hsplit, hbegun _, hothers⟩
      · -- only a newline is left, behind a run
        rw [Bool.and_eq_true, Bool.and_eq_true, decide_eq_true_eq, List.isEmpty_iff] at h
        rcases h with ⟨⟨hrun, rfl⟩, rfl⟩
        refine ⟨[.char '\n'], [], by decide, ?_, nofun⟩
        rw [hrun]
        exact nofun

end Identifier

theorem isIdentifier_of_checkIdentifier {name : Text} (h : checkIdentifier name = none) :
    isIdentifier name = true := by
  rw [checkIdentifier] at h
  split at h
  · assumption
  · exact absurd h (by simp)

theorem checkLabels_eq_none_iff {labels : Mapping Text} :
    checkLabels labels = none ↔ ∀ entry ∈ labels.toList, checkLabel entry.1 entry.2 = none :=
  List.findSome?_eq_none_iff

/-- All that is checked of one label. -/
theorem checkLabel_eq_none_iff {label value : Text} :
    checkLabel label value = none ↔
      label ≠ reservedLabel ∧ isIdentifier label = true ∧ value.length ≤ maxLabelLength := by
  unfold checkLabel checkIdentifier
  by_cases hreserved : label = reservedLabel
  · simp [hreserved]
  · by_cases hidentifier : isIdentifier label = true
    · simp [hreserved, hidentifier]
    · simp [hreserved, hidentifier]

/-- A label that passes its checks is not the reserved one, and is made of points of identifiers. -/
theorem of_checkLabel {label value : Text} (h : checkLabel label value = none) :
    label ≠ reservedLabel ∧ ∀ p ∈ label, Identifier.isPoint p = true := by
  rcases checkLabel_eq_none_iff.mp h with ⟨hreserved, hidentifier, -⟩
  exact ⟨hreserved, Identifier.isPoint_of_accepts hidentifier⟩

namespace App

theorem isPoint_of_mem_name (app : App) {p : CodePoint} (h : p ∈ app.name) :
    Identifier.isPoint p = true :=
  Identifier.isPoint_of_accepts (isIdentifier_of_checkIdentifier app.name_ok) p h

theorem of_mem_labels (app : App) {entry : Text × Text} (h : entry ∈ app.labels.toList) :
    entry.1 ≠ reservedLabel ∧ ∀ p ∈ entry.1, Identifier.isPoint p = true :=
  of_checkLabel (checkLabels_eq_none_iff.mp app.labels_ok entry h)

/-- Valid labels are taken by the app as they are. -/
theorem make?_labels (app : App) : make? app.name app.labels = .ok app := by
  unfold make?
  split
  · rfl
  · rename_i h
    exact absurd app.labels_ok (h app.name_ok)

theorem name_of_make? {name : Text} {labels : Mapping Text} {app : App}
    (h : make? name labels = .ok app) : app.name = name ∧ app.labels = labels := by
  unfold make? at h
  split at h
  · rw [← Except.ok.inj h]
    exact ⟨rfl, rfl⟩
  · exact nomatch h

end App

end ImageDiscovery
