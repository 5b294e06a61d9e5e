import ImageDiscovery.Proofs.Template.TwoPasses

/-!
# Resolved — when a rendered text has nothing left to replace

A rendered text is searched for what is left on each of its lines.  So it counts as resolved exactly if
every placeholder that stands in it has a line break in its key; a placeholder on one line whose key has no
value is always found.
-/

namespace ImageDiscovery

namespace Template

/-! ## Placeholders in a text -/

/-- A placeholder for one of some keys stands in a text. -/
def Holds (keys : Text → Prop) (t : Text) : Prop := ∃ key, keys key ∧ placeholder key <:+: t

variable {keys : Text → Prop} {key t : Text} {p : CodePoint}

theorem not_holds_nil : ¬ Holds keys [] := by
  rintro ⟨key, -, h⟩
  exact nomatch List.infix_nil.mp h

/-- A placeholder stands at the beginning or behind the first code point. -/
theorem holds_cons_iff : Holds keys (p :: t) ↔ StartsWith keys (p :: t) ∨ Holds keys t := by
  constructor
  · rintro ⟨key, hkey, hheld⟩
    obtain ⟨rest, hrest⟩ | htail := List.infix_cons_iff.mp hheld
    · exact .inl ⟨key, rest, hkey, hrest.symm⟩
    · exact .inr ⟨key, hkey, htail⟩
  · rintro (⟨key, rest, hkey, heq⟩ | ⟨key, hkey, hheld⟩)
    · exact ⟨key, hkey, heq ▸ (List.prefix_append _ rest).isInfix⟩
    · exact ⟨key, hkey, List.infix_cons hheld⟩

theorem placeholder_infix_iff : placeholder key <:+: t ↔ 0 < occurrences key t := by
  induction t with
  | nil =>
    refine iff_of_false (fun h => nomatch List.infix_nil.mp h) ?_
    exact Nat.lt_irrefl 0
  | cons p t ih =>
    rw [List.infix_cons_iff, ih]
    by_cases hp : placeholder key <+: p :: t
    · rw [occurrences_cons_of_starts hp]
      exact iff_of_true (.inl hp) (by omega)
    · rw [occurrences_cons_of_not hp, or_iff_right hp]

/-! ## Lines -/

/-- A key that a search line by line can find. -/
def OneLineKey (key : Text) : Prop := BraceFree key ∧ CodePoint.char '\n' ∉ key

instance (key : Text) : Decidable (OneLineKey key) := inferInstanceAs (Decidable (_ ∧ _))

/-- Behind an opening brace, the text would complete a placeholder. -/
def Completes (t : Text) : Prop := ∃ key rest, OneLineKey key ∧ t = key ++ .char '}' :: rest

theorem not_completes_nil : ¬ Completes [] := by
  rintro ⟨key, rest, -, heq⟩
  exact absurd heq.symm (by simp)

theorem completes_cons_iff :
    Completes (p :: t) ↔ p = .char '}' ∨ p ≠ .char '{' ∧ p ≠ .char '\n' ∧ Completes t := by
  constructor
  · rintro ⟨key, rest, ⟨⟨hopening, hclosing⟩, hline⟩, heq⟩
    cases key with
    | nil => exact .inl (List.cons.inj heq).1
    | cons q key =>
      obtain ⟨rfl, rfl⟩ := List.cons.inj heq
      rw [List.mem_cons, not_or] at hopening hclosing hline
      exact .inr ⟨Ne.symm hopening.1, Ne.symm hline.1, key, rest,
        ⟨⟨hopening.2, hclosing.2⟩, hline.2⟩, rfl⟩
  · rintro (rfl | ⟨hopening, hline, key, rest, hkey, rfl⟩)
    · exact ⟨[], t, by decide, rfl⟩
    · by_cases hclosing : p = .char '}'
      · exact ⟨[], _, by decide, by rw [hclosing]; rfl⟩
      · refine ⟨p :: key, rest, ⟨⟨?_, ?_⟩, ?_⟩, rfl⟩
        · simpa using ⟨Ne.symm hopening, hkey.1.1⟩
        · simpa using ⟨Ne.symm hclosing, hkey.1.2⟩
        · simpa using ⟨Ne.symm hline, hkey.2⟩

theorem startsWith_cons_iff :
    StartsWith OneLineKey (p :: t) ↔ p = .char '{' ∧ Completes t := by
  constructor
  · rintro ⟨key, rest, hkey, heq⟩
    rw [placeholder_append, List.cons.injEq] at heq
    exact ⟨heq.1, key, rest, hkey, heq.2⟩
  · rintro ⟨rfl, key, rest, hkey, rfl⟩
    exact ⟨key, rest, hkey, (placeholder_append key rest).symm⟩

/-- What the search finds: the end of a placeholder that was begun, or a whole one. -/
theorem hasExpression_iff {opened : Bool} :
    hasExpression opened t = true ↔ opened = true ∧ Completes t ∨ Holds OneLineKey t := by
  induction t generalizing opened with
  | nil =>
    refine iff_of_false Bool.false_ne_true ?_
    rintro (⟨-, h⟩ | h)
    · exact not_completes_nil h
    · exact not_holds_nil h
  | cons p t ih =>
    rw [hasExpression, holds_cons_iff, startsWith_cons_iff, completes_cons_iff]
    by_cases hopening : p = .char '{'
    · -- an opening brace gives up the one before it
      rw [if_pos hopening, ih]
      simp [hopening]
    rw [if_neg hopening]
    by_cases hline : p = .char '\n'
    · rw [if_pos hline, ih]
      simp [hline]
    rw [if_neg hline]
    by_cases hfound : p = .char '}' ∧ opened = true
    · rw [if_pos (by simpa using hfound)]
      exact iff_of_true rfl (.inl ⟨hfound.2, .inl hfound.1⟩)
    · rw [if_neg (by simpa using hfound), ih]
      have hclosing : opened = true → p ≠ .char '}' := fun ho hp => hfound ⟨hp, ho⟩
      constructor
      · rintro (⟨ho, ht⟩ | ht)
        · exact .inl ⟨ho, .inr ⟨hopening, hline, ht⟩⟩
        · exact .inr (.inr ht)
      · rintro (⟨ho, hp | ⟨-, -, ht⟩⟩ | ⟨hp, -⟩ | ht)
        · exact absurd hp (hclosing ho)
        · exact .inl ⟨ho, ht⟩
        · exact absurd hp hopening
        · exact .inr ht

theorem resolved_iff : resolved t = true ↔ ¬ Holds OneLineKey t := by
  rw [resolved, Bool.not_eq_true', Bool.eq_false_iff, ne_eq, hasExpression_iff]
  simp

/-! ## Rendered texts -/

/-- What has no value is left as it is. -/
theorem placeholder_infix_render {pairs : List (Text × Text)} (hkey : BraceFree key)
    (hnone : key ∉ pairs.map Prod.fst) (h : placeholder key <:+: t) :
    placeholder key <:+: render t pairs := by
  rw [placeholder_infix_iff] at h ⊢
  exact Nat.lt_of_lt_of_le h (occurrences_le_render hkey (.inl (valueOf_eq_none hnone)))

/-- **When a rendered text is resolved.**  It is if no placeholder is left in it but such as are broken over
    lines.  So a placeholder on one line without a value never goes unnoticed. -/
theorem resolved_render_iff (template : Text) (pairs : List (Text × Text)) :
    (resolved (render template pairs) = true ↔ ¬ Holds OneLineKey (render template pairs)) ∧
      ∀ key, OneLineKey key → key ∉ pairs.map Prod.fst → placeholder key <:+: template →
        resolved (render template pairs) = false := by
  refine ⟨resolved_iff, fun key hkey hnone hmem => ?_⟩
  rw [Bool.eq_false_iff, ne_eq, resolved_iff]
  exact fun hnot => hnot ⟨key, hkey, placeholder_infix_render hkey.1 hnone hmem⟩

theorem resolved_render_iff_version :
    let pairs : List (Text × Text) := [("name", "\x7b")]
    let key : Text := "version"
    OneLineKey key ∧ key ∉ pairs.map Prod.fst ∧ placeholder key <:+: "{{name}-{version}}" ∧
      resolved (render "{{name}-{version}}" pairs) = false := by
  intro pairs key
  have hkey : OneLineKey key := by decide
  have hnone : key ∉ pairs.map Prod.fst := by decide
  have hmem : placeholder key <:+: "{{name}-{version}}" := ⟨"\x7b\x7bname\x7d-", "\x7d", by decide⟩
  exact ⟨hkey, hnone, hmem, (resolved_render_iff _ pairs).2 key hkey hnone hmem⟩

/-- A placeholder that is broken over lines is not found, though it is one. -/
theorem exists_resolved_with_placeholder :
    ¬ ∀ (template : Text) (pairs : List (Text × Text)),
      resolved (render template pairs) = true ↔ ¬ Holds BraceFree (render template pairs) := by
  intro h
  have hheld : Holds BraceFree (render "\x7ba\nb\x7d" []) := ⟨"a\nb", by decide, ⟨[], [], by decide⟩⟩
  exact (h "\x7ba\nb\x7d" []).mp (by decide) hheld

end Template

end ImageDiscovery
