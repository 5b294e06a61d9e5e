import ImageDiscovery.Proofs.Identifier
import ImageDiscovery.Tag

/-!
# Runs — which texts are identifiers

An identifier is made of runs of lower-case letters and digits, joined by single separators: the scan
that accepts identifiers accepts every such text.  What it accepts besides is such a text with a newline
behind it, and nothing else.  So the names of apps and of labels are texts of these two forms.
-/

namespace ImageDiscovery

namespace Identifier

/-! ## Texts made of runs -/

/-- A lower-case letter or a digit, of ASCII. -/
def IsLetterOrDigit (p : CodePoint) : Prop :=
  ∃ c : Char, p = .char c ∧ ('a' ≤ c ∧ c ≤ 'z' ∨ '0' ≤ c ∧ c ≤ '9')

def separators : Text := "-._~/"

structure IsRun (run : Text) : Prop where
  nonempty : run ≠ []
  points : ∀ p ∈ run, IsLetterOrDigit p

/-- One run, or a run and a separator in front of runs joined by separators. -/
inductive Joined : Text → Prop where
  | run {run : Text} (hrun : IsRun run) : Joined run
  | cons {run rest : Text} {sep : CodePoint} (hrun : IsRun run) (hsep : sep ∈ separators)
    (hrest : Joined rest) : Joined (run ++ sep :: rest)

theorem isWordPoint_iff_toNat {p : CodePoint} :
    isWordPoint p = true ↔
      0x30 ≤ p.toNat ∧ p.toNat ≤ 0x39 ∨ 0x61 ≤ p.toNat ∧ p.toNat ≤ 0x7A := by
  simp only [isWordPoint, CodePoint.isDigit, Bool.or_eq_true, Bool.and_eq_true, decide_eq_true_eq]

theorem isWordPoint_iff {p : CodePoint} : isWordPoint p = true ↔ IsLetterOrDigit p := by
  rw [isWordPoint_iff_toNat]
  constructor
  · intro h
    cases p with
    | char c =>
      have hnumber : (CodePoint.char c).toNat = c.val.toNat := rfl
      rw [hnumber] at h
      refine ⟨c, rfl, ?_⟩
      simp only [Char.le_def, UInt32.le_iff_toNat_le]
      exact h.symm
    | lone half =>
      have hnumber : (CodePoint.lone half).toNat = 0xD800 + half.val := rfl
      omega
  · intro ⟨c, hc, h⟩
    have hnumber : p.toNat = c.val.toNat := by rw [hc]; rfl
    simp only [Char.le_def, UInt32.le_iff_toNat_le] at h
    rw [hnumber]
    exact h.symm

theorem isSeparator_iff {p : CodePoint} : isSeparator p = true ↔ p ∈ separators := by
  simp [isSeparator, separators, Text.ofString, Text.ofChars, or_assoc]

instance (p : CodePoint) : Decidable (IsLetterOrDigit p) := decidable_of_iff _ isWordPoint_iff

theorem isWordPoint_eq_false_of_separator {p : CodePoint} (h : p ∈ separators) :
    isWordPoint p = false := by
  have hall : ∀ q ∈ separators, isWordPoint q = false := by decide
  exact hall p h

/-! ## The scan of such a text -/

theorem accepts_cons (inRun : Bool) (p : CodePoint) (rest : Text) :
    accepts inRun (p :: rest) =
      if isWordPoint p then accepts true rest
      else if isSeparator p then inRun && accepts false rest
      else inRun && p = .char '\n' && rest.isEmpty := rfl

/-- Within a run, the scan stays in it. -/
theorem accepts_append {run : Text} (h : ∀ p ∈ run, IsLetterOrDigit p) (rest : Text) :
    accepts true (run ++ rest) = accepts true rest := by
  induction run with
  | nil => rfl
  | cons p run ih =>
    rw [List.forall_mem_cons] at h
    rw [List.cons_append, accepts_cons, if_pos (isWordPoint_iff.mpr h.1)]
    exact ih h.2

theorem IsRun.accepts_append {run : Text} (h : IsRun run) (rest : Text) :
    accepts false (run ++ rest) = accepts true rest := by
  cases run with
  | nil => exact absurd rfl h.nonempty
  | cons p run =>
    have hpoints := List.forall_mem_cons.mp h.points
    rw [List.cons_append, accepts_cons, if_pos (isWordPoint_iff.mpr hpoints.1)]
    exact Identifier.accepts_append hpoints.2 rest

theorem accepts_separator {sep : CodePoint} (h : sep ∈ separators) (rest : Text) :
    accepts true (sep :: rest) = accepts false rest := by
  rw [accepts_cons, isWordPoint_eq_false_of_separator h, if_neg Bool.false_ne_true,
    if_pos (isSeparator_iff.mpr h), Bool.true_and]

/-- The scan passes over runs and ends in one, so what follows them decides. -/
theorem Joined.accepts_append {t : Text} (h : Joined t) (rest : Text)
    (hrest : accepts true rest = true) : accepts false (t ++ rest) = true := by
  induction h with
  | run hrun =>
    rw [hrun.accepts_append]
    exact hrest
  | cons hrun hsep _ ih =>
    rw [List.append_assoc, hrun.accepts_append, List.cons_append, accepts_separator hsep]
    exact ih

/-- What the scan accepts is made of runs, up to a newline at its end.  Within a run, the rest of that run
    comes first. -/
theorem exists_joined_of_accepts {inRun : Bool} {t : Text} (h : accepts inRun t = true) :
    ∃ body ending, t = body ++ ending ∧ (ending = [] ∨ ending = [.char '\n']) ∧
      (inRun = false → Joined body) ∧ ∀ run, IsRun run → inRun = true → Joined (run ++ body) := by
  induction t generalizing inRun with
  | nil =>
    have hrun : inRun = true := h
    refine ⟨[], [], rfl, .inl rfl, ?_, ?_⟩
    · exact fun hnot => nomatch hrun.symm.trans hnot
    · intro run hrun _
      rw [List.append_nil]
      exact .run hrun
  | cons p rest ih =>
    rw [accepts_cons] at h
    by_cases hword : isWordPoint p = true
    · rw [if_pos hword] at h
      have ⟨body, ending, ht, hending, _, hjoined⟩ := ih h
      have hpoint := isWordPoint_iff.mp hword
      have hself : IsRun [p] := ⟨List.cons_ne_nil _ _, by simpa using hpoint⟩
      refine ⟨p :: body, ending, by rw [ht]; rfl, hending, fun _ => hjoined [p] hself rfl, ?_⟩
      -- the point becomes the last one of the run before it
      intro run hrun _
      have hlonger : IsRun (run ++ [p]) :=
        ⟨by simp, fun q hq => (List.mem_append.mp hq).elim (hrun.points q) (hself.points q)⟩
      have hjoin := hjoined (run ++ [p]) hlonger rfl
      rw [List.append_assoc] at hjoin
      exact hjoin
    · rw [if_neg hword] at h
      by_cases hsep : isSeparator p = true
      · rw [if_pos hsep, Bool.and_eq_true] at h
        have ⟨body, ending, ht, hending, hjoined, _⟩ := ih h.2
        refine ⟨p :: body, ending, by rw [ht]; rfl, hending, ?_, ?_⟩
        · exact fun hnot => nomatch h.1.symm.trans hnot
        · exact fun run hrun _ => .cons hrun (isSeparator_iff.mp hsep) (hjoined rfl)
      · -- only a newline is left, behind a run
        rw [if_neg hsep, Bool.and_eq_true, Bool.and_eq_true, decide_eq_true_eq,
          List.isEmpty_iff] at h
        have ⟨⟨hrun, hline⟩, hrest⟩ := h
        refine ⟨[], [.char '\n'], by rw [hline, hrest]; rfl, .inr rfl, ?_, ?_⟩
        · exact fun hnot => nomatch hrun.symm.trans hnot
        · intro run hrun _
          rw [List.append_nil]
          exact .run hrun

/-- What passes for an identifier: runs that are joined, and the same with a newline behind them. -/
def Passes (t : Text) : Prop := Joined t ∨ ∃ body, Joined body ∧ t = body ++ [.char '\n']

theorem isIdentifier_iff_passes {t : Text} : isIdentifier t = true ↔ Passes t := by
  constructor
  · intro h
    have ⟨body, ending, ht, hending, hjoined, _⟩ := exists_joined_of_accepts h
    cases hending with
    | inl hnil =>
      rw [ht, hnil, List.append_nil]
      exact .inl (hjoined rfl)
    | inr hline => exact .inr ⟨body, hjoined rfl, by rw [ht, hline]⟩
  · intro h
    cases h with
    | inl hjoined =>
      have haccepts := hjoined.accepts_append [] rfl
      rw [List.append_nil] at haccepts
      exact haccepts
    | inr h =>
      have ⟨body, hjoined, ht⟩ := h
      rw [ht]
      exact hjoined.accepts_append _ (by decide)

/-- No run and no separator is a newline. -/
theorem Joined.newline_not_mem {t : Text} (h : Joined t) : .char '\n' ∉ t := by
  have hrun : ∀ {run : Text}, IsRun run → .char '\n' ∉ run := fun hrun hmem =>
    absurd (hrun.points _ hmem) (by decide)
  induction h with
  | run hpoints => exact hrun hpoints
  | cons hpoints hsep _ ih =>
    intro hmem
    cases List.mem_append.mp hmem with
    | inl hmem => exact hrun hpoints hmem
    | inr hmem =>
      cases List.mem_cons.mp hmem with
      | inl heq => exact absurd (heq ▸ hsep) (by decide)
      | inr hmem => exact ih hmem

theorem passes_iff_joined {t : Text} (h : t.getLast? ≠ some (.char '\n')) : Passes t ↔ Joined t := by
  constructor
  · intro hpasses
    cases hpasses with
    | inl hjoined => exact hjoined
    | inr hline =>
      have ⟨body, _, ht⟩ := hline
      rw [ht, List.getLast?_concat] at h
      exact absurd rfl h
  · exact .inl

theorem passes_newline_iff {t : Text} : Passes (t ++ [.char '\n']) ↔ Joined t := by
  constructor
  · intro hpasses
    cases hpasses with
    | inl hjoined =>
      -- the newline would be in a run or a separator
      exact absurd (by simp) hjoined.newline_not_mem
    | inr hline =>
      have ⟨body, hjoined, ht⟩ := hline
      rw [List.append_cancel_right ht]
      exact hjoined
  · exact fun hjoined => .inr ⟨t, hjoined, rfl⟩

end Identifier

/-! ## Names -/

theorem checkIdentifier_eq_none_iff {name : Text} :
    checkIdentifier name = none ↔ Identifier.Passes name := by
  rw [checkIdentifier, ← Identifier.isIdentifier_iff_passes]
  split
  · simp [*]
  · simp [*]

theorem checkIdentifier_of_not_passes {name : Text} (h : ¬ Identifier.Passes name) :
    checkIdentifier name = some (.badIdentifier name) := by
  rw [← Identifier.isIdentifier_iff_passes] at h
  rw [checkIdentifier, if_neg h]

theorem App.exists_make?_iff {name : Text} {labels : Mapping Text} :
    (∃ app, make? name labels = .ok app) ↔
      checkIdentifier name = none ∧ checkLabels labels = none := by
  constructor
  · intro ⟨app, happ⟩
    have ⟨hname, hlabels⟩ := name_of_make? happ
    exact ⟨hname ▸ app.name_ok, hlabels ▸ app.labels_ok⟩
  · intro ⟨hname, hlabels⟩
    exact ⟨_, make?_labels ⟨name, labels, hname, hlabels⟩⟩

theorem checkLabels_singleton (label value : Text) :
    checkLabels ⟨[(label, value)], by simp⟩ = checkLabel label value := by
  rw [checkLabels, List.findSome?_singleton]

theorem checkLabelSets_singleton (tag : Text) (labels : Mapping Text) :
    checkLabelSets ⟨[(tag, labels)], by simp⟩ = checkLabels labels := by
  rw [checkLabelSets, List.findSome?_singleton]

/-- The names of labels are told from other texts label by label, wherever labels are checked. -/
theorem exists_label_iff {label : Text} :
    (∃ labels : Mapping Text, label ∈ labels.keys ∧ checkLabels labels = none) ↔
      Identifier.Passes label ∧ label ≠ reservedLabel := by
  rw [← Identifier.isIdentifier_iff_passes]
  constructor
  · intro ⟨labels, hmem, hlabels⟩
    have ⟨entry, hentry, hlabel⟩ := List.mem_map.mp hmem
    have hcheck := checkLabel_eq_none_iff.mp (checkLabels_eq_none_iff.mp hlabels entry hentry)
    rw [hlabel] at hcheck
    exact ⟨hcheck.2.1, hcheck.1⟩
  · intro ⟨hidentifier, hreserved⟩
    refine ⟨⟨[(label, [])], by simp⟩, List.mem_singleton_self _, ?_⟩
    rw [checkLabels_singleton, checkLabel_eq_none_iff]
    exact ⟨hreserved, hidentifier, by simp⟩

namespace Identifier

/-- How it is told whether a text is a name. -/
structure DecidesName (t : Text) : Prop where
  accepts_iff : t.getLast? ≠ some (.char '\n') → (checkIdentifier t = none ↔ Joined t)
  /-- One newline at the end makes no difference. -/
  newline : checkIdentifier (t ++ [.char '\n']) = none ↔ Joined t
  refuses : ¬ Passes t → checkIdentifier t = some (.badIdentifier t)
  app : ∀ labels, checkLabels labels = none → ((∃ app, App.make? t labels = .ok app) ↔ Passes t)
  label : (∃ app : App, t ∈ app.labels.keys) ↔ Passes t ∧ t ≠ reservedLabel
  tagLabel : (∃ data : TagData, ∃ entry ∈ data.labels.toList, t ∈ entry.2.keys) ↔
    Passes t ∧ t ≠ reservedLabel

/-- **Identifiers.**  A text without a newline at its end is accepted if and only if it is made of runs of
    lower-case letters and digits with single separators between them; one newline behind such a text
    is accepted too.  These are the names of apps, and but for the reserved one the names of labels. -/
theorem decidesName (t : Text) : DecidesName t where
  accepts_iff := fun hline => checkIdentifier_eq_none_iff.trans (passes_iff_joined hline)
  newline := checkIdentifier_eq_none_iff.trans passes_newline_iff
  refuses := checkIdentifier_of_not_passes
  app := by
    intro labels hlabels
    rw [App.exists_make?_iff, checkIdentifier_eq_none_iff, and_iff_left hlabels]
  label := by
    rw [← exists_label_iff]
    constructor
    · intro ⟨app, hmem⟩
      exact ⟨app.labels, hmem, app.labels_ok⟩
    · intro ⟨labels, hmem, hlabels⟩
      exact ⟨⟨"a", labels, by decide, hlabels⟩, hmem⟩
  tagLabel := by
    rw [← exists_label_iff]
    constructor
    · intro ⟨data, entry, hentry, hmem⟩
      exact ⟨entry.2, hmem, List.findSome?_eq_none_iff.mp data.labels_ok entry hentry⟩
    · intro ⟨labels, hmem, hlabels⟩
      -- tag data with one label set, for a tag without a name
      have hsets := (checkLabelSets_singleton [] labels).trans hlabels
      exact ⟨⟨{}, _, hsets⟩, _, List.mem_singleton_self _, hmem⟩

/-- Two separators in a name, and runs of letters on each side of them. -/
theorem decidesName_worker :
    checkIdentifier "example.com/worker" = none ∧ Joined "example.com/worker" := by
  have haccepted : checkIdentifier "example.com/worker" = none := by decide
  have hline : ("example.com/worker" : Text).getLast? ≠ some (.char '\n') := by decide
  exact ⟨haccepted, ((decidesName "example.com/worker").accepts_iff hline).mp haccepted⟩

/-- The newline is accepted although no run and no separator holds one. -/
theorem exists_name_not_joined : ¬ ∀ t : Text, checkIdentifier t = none ↔ Joined t := by
  intro h
  have hjoined := (h "a\n").mp (by decide)
  exact hjoined.newline_not_mem (by decide)

end Identifier

end ImageDiscovery
