import ImageDiscovery.Text.Basic

/-!
# Splitting — texts cut at a separator and put together again

Joining undoes splitting for every text.  Splitting undoes joining when no part has the separator in
it.  A text that neither begins nor ends in what is to be cut off there stays as it is.
-/

namespace ImageDiscovery

namespace Text

/-! ## One separator after another -/

theorem split_cons_self (sep : CodePoint) (rest : Text) :
    split sep (sep :: rest) = [] :: split sep rest := by
  show (if sep = sep then [] :: split sep rest else _) = _
  rw [if_pos rfl]

theorem split_cons_of_ne {sep p : CodePoint} {rest first : Text} {others : List Text} (h : p ≠ sep)
    (hrest : split sep rest = first :: others) :
    split sep (p :: rest) = (p :: first) :: others := by
  unfold split at hrest ⊢
  rw [List.foldr_cons, if_neg h, hrest]

theorem split_of_not_mem {sep : CodePoint} {t : Text} (h : sep ∉ t) : t.split sep = [t] := by
  induction t with
  | nil => rfl
  | cons p rest ih =>
    have hne : p ≠ sep := fun e => h (by simp [e])
    exact split_cons_of_ne hne (ih fun m => h (.tail _ m))

theorem split_append {sep : CodePoint} {first : Text} (h : sep ∉ first) (rest : Text) :
    split sep (first ++ sep :: rest) = first :: split sep rest := by
  induction first with
  | nil => exact split_cons_self sep rest
  | cons p first ih =>
    have hne : p ≠ sep := fun e => h (by simp [e])
    exact split_cons_of_ne hne (ih fun m => h (.tail _ m))

/-- At any separator, the parts in front of it and the parts behind it are those of the whole. -/
theorem split_append_cons (sep : CodePoint) (t rest : Text) :
    split sep (t ++ sep :: rest) = split sep t ++ split sep rest := by
  induction t with
  | nil => exact split_cons_self sep rest
  | cons p t ih =>
    by_cases hp : p = sep
    · rw [hp, List.cons_append, split_cons_self, split_cons_self, ih, List.cons_append]
    · -- the point goes to the first part of what is behind it
      have ⟨first, others, ht⟩ := List.exists_cons_of_ne_nil (split_ne_nil sep t)
      rw [ht, List.cons_append] at ih
      rw [List.cons_append, split_cons_of_ne hp ih, split_cons_of_ne hp ht, List.cons_append]

/-- The first part goes up to the first separator. -/
theorem head?_split (sep : CodePoint) (t : Text) :
    (t.split sep).head? = some (t.takeWhile (· ≠ sep)) := by
  induction t with
  | nil => rfl
  | cons p t ih =>
    by_cases hp : p = sep
    · rw [hp, split_cons_self]
      simp
    · have ⟨first, others, ht⟩ := List.exists_cons_of_ne_nil (split_ne_nil sep t)
      rw [ht] at ih
      rw [split_cons_of_ne hp ht]
      simpa [hp] using ih

/-- What does not hold the separator is passed over. -/
theorem cut_append_of_not_mem {sep : CodePoint} {before : Text} (h : sep ∉ before) (after : Text) :
    (before ++ after).cut sep = (before ++ (after.cut sep).1, (after.cut sep).2) := by
  induction before with
  | nil => rfl
  | cons p rest ih =>
    have hp : p ≠ sep := fun e => h (e ▸ List.mem_cons_self)
    rw [List.cons_append, cut, if_neg hp, ih fun m => h (.tail _ m)]
    rfl

theorem cut_append {sep : CodePoint} {before : Text} (h : sep ∉ before) (after : Text) :
    (before ++ sep :: after).cut sep = (before, some after) := by
  have hcut : cut sep (sep :: after) = ([], some after) := if_pos rfl
  rw [cut_append_of_not_mem h, hcut, List.append_nil]

theorem cut_of_not_mem {sep : CodePoint} {t : Text} (h : sep ∉ t) : t.cut sep = (t, none) := by
  have hcut := cut_append_of_not_mem h []
  rw [List.append_nil] at hcut
  rw [hcut, cut, List.append_nil]

theorem mem_of_mem_fst_cut {sep p : CodePoint} {t : Text} (h : p ∈ (t.cut sep).1) : p ∈ t := by
  cases hcut : t.cut sep with
  | mk before after =>
    rw [hcut] at h
    cases after with
    | none => exact (cut_eq_none hcut).1 ▸ h
    | some after =>
      rw [(cut_eq_some hcut).1]
      exact List.mem_append_left _ h

/-! ## Joining -/

theorem join_cons (sep t : Text) {rest : List Text} (h : rest ≠ []) :
    join sep (t :: rest) = t ++ sep ++ join sep rest := by
  rcases List.exists_cons_of_ne_nil h with ⟨next, others, rfl⟩
  rw [join]
  exact h

theorem join_append (sep : Text) {xs ys : List Text} (hx : xs ≠ []) (hy : ys ≠ []) :
    join sep (xs ++ ys) = join sep xs ++ sep ++ join sep ys := by
  induction xs with
  | nil => exact absurd rfl hx
  | cons t rest ih =>
    by_cases hrest : rest = []
    · rw [hrest, List.singleton_append, join_cons sep t hy, join]
    · rw [List.cons_append, join_cons sep t (by simp [hrest]), join_cons sep t hrest, ih hrest]
      simp only [List.append_assoc]

theorem join_split (sep : CodePoint) (t : Text) : join [sep] (t.split sep) = t := by
  induction t with
  | nil => rfl
  | cons p rest ih =>
    by_cases hp : p = sep
    · -- a separator begins a new part, in front of at least one other
      rw [hp, split_cons_self, join_cons _ _ (split_ne_nil sep rest), ih]
      rfl
    · rcases List.exists_cons_of_ne_nil (split_ne_nil sep rest) with ⟨first, others, hrest⟩
      rw [split_cons_of_ne hp hrest]
      rw [hrest] at ih
      by_cases ho : others = []
      · rw [ho, join] at ih ⊢
        rw [ih]
      · rw [join_cons _ _ ho] at ih ⊢
        rw [List.cons_append, List.cons_append, ih]

theorem split_join {sep : CodePoint} {parts : List Text} (hne : parts ≠ [])
    (h : ∀ part ∈ parts, sep ∉ part) : (join [sep] parts).split sep = parts := by
  induction parts with
  | nil => exact absurd rfl hne
  | cons part rest ih =>
    have hpart : sep ∉ part := h part List.mem_cons_self
    by_cases hrest : rest = []
    · rw [hrest, join, split_of_not_mem hpart]
    · rw [join_cons _ _ hrest, List.append_assoc, List.singleton_append, split_append hpart,
        ih hrest fun other hother => h other (.tail _ hother)]

/-- A separator stands in front of every text but the first. -/
theorem join_eq_flatMap (sep t : Text) (rest : List Text) :
    join sep (t :: rest) = t ++ rest.flatMap (sep ++ ·) := by
  induction rest generalizing t with
  | nil => exact (List.append_nil t).symm
  | cons next rest ih =>
    rw [join_cons _ _ (List.cons_ne_nil _ _), ih, List.flatMap_cons]
    simp only [List.append_assoc]

/-- What stands in front of joined texts stands in front of the first. -/
theorem append_join (sep s t : Text) (rest : List Text) :
    s ++ join sep (t :: rest) = join sep ((s ++ t) :: rest) := by
  by_cases hrest : rest = []
  · rw [hrest, join, join]
  · rw [join_cons _ _ hrest, join_cons _ _ hrest]
    simp only [List.append_assoc]

/-! ## What the parts are made of -/

/-- What is joined holds nothing but the parts and what stands between them. -/
theorem of_mem_join {sep : Text} {parts : List Text} {p : CodePoint}
    (h : p ∈ join sep parts) : p ∈ sep ∨ ∃ part ∈ parts, p ∈ part := by
  induction parts with
  | nil => exact nomatch h
  | cons first rest ih =>
    cases rest with
    | nil => exact .inr ⟨first, List.mem_cons_self, h⟩
    | cons second rest =>
      have hjoin : join sep (first :: second :: rest) =
          first ++ sep ++ join sep (second :: rest) := rfl
      rw [hjoin, List.mem_append, List.mem_append] at h
      rcases h with (h | h) | h
      · exact .inr ⟨first, List.mem_cons_self, h⟩
      · exact .inl h
      · rcases ih h with h | ⟨part, hpart, hp⟩
        · exact .inl h
        · exact .inr ⟨part, .tail _ hpart, hp⟩

theorem mem_of_mem_join {sep : Text} {parts : List Text} {part : Text} {p : CodePoint}
    (hpart : part ∈ parts) (hp : p ∈ part) : p ∈ join sep parts := by
  induction parts with
  | nil => exact nomatch hpart
  | cons first rest ih =>
    by_cases hrest : rest = []
    · simp_all [join]
    · rw [join_cons _ _ hrest]
      rcases List.mem_cons.mp hpart with rfl | hmem
      · simp [hp]
      · simp [ih hmem]

theorem mem_of_mem_split {sep : CodePoint} {t part : Text} {p : CodePoint} (hpart : part ∈ t.split sep)
    (hp : p ∈ part) : p ∈ t := by
  have hmem : p ∈ join [sep] (t.split sep) := mem_of_mem_join hpart hp
  rwa [join_split] at hmem

/-- The separator stands in no part. -/
theorem not_mem_of_mem_split {sep : CodePoint} {t part : Text} (h : part ∈ t.split sep) :
    sep ∉ part := by
  induction t generalizing part with
  | nil => simp_all [split]
  | cons p rest ih =>
    by_cases hp : p = sep
    · rw [hp, split_cons_self, List.mem_cons] at h
      rcases h with rfl | h
      · exact List.not_mem_nil
      · exact ih h
    · obtain ⟨first, others, hrest⟩ := List.exists_cons_of_ne_nil (split_ne_nil sep rest)
      rw [split_cons_of_ne hp hrest, List.mem_cons] at h
      rcases h with rfl | h
      · have hfirst : sep ∉ first := ih (by simp [hrest])
        simp [Ne.symm hp, hfirst]
      · exact ih (by simp [hrest, h])

/-! ## Both ends -/

theorem dropWhile_eq_self {t : Text} {holds : CodePoint → Bool} (h : ∀ p ∈ t.head?, holds p = false) :
    t.dropWhile holds = t := by
  cases t with
  | nil => rfl
  | cons p rest => exact List.dropWhile_cons_of_neg (by simp [h p rfl])

theorem dropEndWhile_eq_self {t : Text} {holds : CodePoint → Bool}
    (h : ∀ p ∈ t.getLast?, holds p = false) : t.dropEndWhile holds = t := by
  rw [dropEndWhile, dropWhile_eq_self, List.reverse_reverse]
  rwa [List.head?_reverse]

theorem head?_dropWhile_eq_false (t : Text) (holds : CodePoint → Bool) :
    ∀ p ∈ (t.dropWhile holds).head?, holds p = false := by
  intro p hp
  have hnot := List.head?_dropWhile_not holds t
  rw [hp] at hnot
  simpa using hnot

theorem getLast?_dropEndWhile_eq_false (t : Text) (holds : CodePoint → Bool) :
    ∀ p ∈ (dropEndWhile t holds).getLast?, holds p = false := by
  rw [dropEndWhile, List.getLast?_reverse]
  exact head?_dropWhile_eq_false t.reverse holds

theorem exists_dropEndWhile (t : Text) (holds : CodePoint → Bool) :
    ∃ ending, t = dropEndWhile t holds ++ ending ∧ ∀ p ∈ ending, holds p = true := by
  refine ⟨(t.reverse.takeWhile holds).reverse, ?_, ?_⟩
  · rw [dropEndWhile, ← List.reverse_append, List.takeWhile_append_dropWhile, List.reverse_reverse]
  · intro p hp
    exact List.all_eq_true.mp List.all_takeWhile p (List.mem_reverse.mp hp)

theorem dropEndWhile_append_of_pos {t ending : Text} {holds : CodePoint → Bool}
    (h : ∀ p ∈ ending, holds p = true) : dropEndWhile (t ++ ending) holds = dropEndWhile t holds := by
  have hreverse : ∀ p ∈ ending.reverse, holds p = true := fun p hp => h p (List.mem_reverse.mp hp)
  rw [dropEndWhile, dropEndWhile, List.reverse_append, List.dropWhile_append_of_pos hreverse]

/-! ## Replacing one code point -/

variable {t substitute : Text} {p : CodePoint}

theorem replace_of_not_mem (h : p ∉ t) (substitute : Text) : t.replace p substitute = t := by
  induction t with
  | nil => rfl
  | cons q rest ih =>
    have hne : q ≠ p := fun e => h (by simp [e])
    rw [replace, List.flatMap_cons, if_neg hne]
    exact congrArg (q :: ·) (ih fun m => h (.tail _ m))

theorem replace_append (s t : Text) (p : CodePoint) (substitute : Text) :
    replace (s ++ t) p substitute = s.replace p substitute ++ t.replace p substitute :=
  List.flatMap_append

theorem not_mem_replace (h : p ∉ substitute) : p ∉ t.replace p substitute := by
  intro hmem
  obtain ⟨q, -, hp⟩ := List.mem_flatMap.mp hmem
  split at hp
  · exact h hp
  · rename_i hne
    exact hne (List.mem_singleton.mp hp).symm

end Text

end ImageDiscovery
