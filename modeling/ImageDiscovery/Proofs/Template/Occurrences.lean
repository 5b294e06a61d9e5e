import ImageDiscovery.Proofs.Template.Substitution

/-!
# Occurrences — how often a placeholder stands in a text

Two texts one after another hold the placeholders of both, and one more for every placeholder that the
seam puts together.  Replacing one key in a text changes its length by so much for each occurrence
(`length_render_single`), and goes part by part where the seam puts nothing together
(`render_single_append`).
-/

namespace ImageDiscovery

namespace Template

/-- How often the placeholder of a key stands in a text. -/
def occurrences (key : Text) : Text → Nat
  | [] => 0
  | p :: rest =>
    (if (placeholder key).isPrefixOf (p :: rest) then 1 else 0) + occurrences key rest

variable {key : Text}

theorem occurrences_cons_of_not {p : CodePoint} {rest : Text}
    (h : ¬ placeholder key <+: p :: rest) : occurrences key (p :: rest) = occurrences key rest := by
  rw [occurrences, if_neg (by simpa using h), Nat.zero_add]

theorem occurrences_cons_of_starts {p : CodePoint} {rest : Text}
    (h : placeholder key <+: p :: rest) :
    occurrences key (p :: rest) = 1 + occurrences key rest := by
  rw [occurrences, if_pos (by simpa using h)]

theorem not_prefix_of_head_ne {p : CodePoint} {rest : Text} (h : p ≠ .char '{') :
    ¬ placeholder key <+: p :: rest := by
  rintro ⟨after, e⟩
  rw [placeholder_append, List.cons.injEq] at e
  exact h e.1.symm

theorem not_prefix_of_not_startsWith {keys : Text → Prop} {t : Text} (h : ¬ StartsWith keys t)
    (hkey : keys key) : ¬ placeholder key <+: t :=
  fun ⟨rest, e⟩ => h ⟨key, rest, hkey, e.symm⟩

theorem occurrences_append_of_not_mem {s : Text} (h : CodePoint.char '{' ∉ s) (t : Text) :
    occurrences key (s ++ t) = occurrences key t := by
  induction s with
  | nil => rfl
  | cons p s ih =>
    have hp : p ≠ .char '{' := fun e => h (by simp [e])
    rw [List.cons_append, occurrences_cons_of_not (not_prefix_of_head_ne hp),
      ih (fun m => h (.tail _ m))]

theorem occurrences_placeholder (hkey : BraceFree key) {other : Text} (h : BraceFree other)
    (rest : Text) :
    occurrences key (placeholder other ++ rest) =
      (if other = key then 1 else 0) + occurrences key rest := by
  -- behind the opening brace there is none before `rest`
  have hinner : CodePoint.char '{' ∉ other ++ [CodePoint.char '}'] := by
    simp [h.1]
  have hrest : occurrences key (other ++ .char '}' :: rest) = occurrences key rest := by
    rw [List.append_cons other, occurrences_append_of_not_mem hinner]
  rw [placeholder_append]
  by_cases he : other = key
  · rw [if_pos he, occurrences_cons_of_starts, hrest]
    rw [← placeholder_append, he]
    exact List.prefix_append _ _
  · rw [if_neg he, occurrences_cons_of_not, hrest, Nat.zero_add]
    rintro ⟨after, e⟩
    rw [← placeholder_append] at e
    exact he (placeholder_append_inj hkey h e).1.symm

theorem occurrences_append_le (s t : Text) :
    occurrences key s + occurrences key t ≤ occurrences key (s ++ t) := by
  induction s with
  | nil => simp [occurrences]
  | cons p s ih =>
    by_cases h : placeholder key <+: p :: s
    · -- what begins here in `s` begins here in the whole text too
      have h' : placeholder key <+: p :: (s ++ t) := h.trans (List.prefix_append _ _)
      rw [List.cons_append, occurrences_cons_of_starts h, occurrences_cons_of_starts h']
      omega
    · rw [List.cons_append, occurrences_cons_of_not h, occurrences]
      omega

/-! ## Replacing one key -/

variable (value : Text)

theorem render_single_placeholder (hkey : BraceFree key) (rest : Text) :
    render (placeholder key ++ rest) [(key, value)] = value ++ render rest [(key, value)] := by
  rw [render_placeholder _ hkey, valueOf_cons, if_pos rfl, Option.getD_some]

theorem render_single_cons {p : CodePoint} {rest : Text} (h : ¬ placeholder key <+: p :: rest) :
    render (p :: rest) [(key, value)] = p :: render rest [(key, value)] := by
  by_cases hs : StartsWith BraceFree (p :: rest)
  · -- the placeholder of another key is kept, and no placeholder begins inside of it
    rcases hs with ⟨other, after, hother, e⟩
    have hne : key ≠ other := fun he => h ⟨after, by rw [e, he]⟩
    have hhead : render (p :: rest) [(key, value)] =
        placeholder other ++ render after [(key, value)] := by
      rw [e, render_placeholder _ hother, valueOf_cons, if_neg hne]
      rfl
    rw [placeholder_append, List.cons.injEq] at e
    have hinner : CodePoint.char '{' ∉ other ++ [CodePoint.char '}'] := by
      simp [hother.1]
    rw [hhead, e.1, e.2, List.append_cons other, render_append_of_not_mem _ hinner]
    simp [placeholder]
  · exact render_cons _ hs

theorem render_single_of_occurrences_eq_zero {t : Text} (h : occurrences key t = 0) :
    render t [(key, value)] = t := by
  induction t with
  | nil => rfl
  | cons p rest ih =>
    by_cases hp : placeholder key <+: p :: rest
    · rw [occurrences_cons_of_starts hp] at h
      omega
    · rw [occurrences_cons_of_not hp] at h
      rw [render_single_cons value hp, ih h]

theorem length_render_single (hkey : BraceFree key) (t : Text) :
    (render t [(key, value)]).length + (key.length + 2) * occurrences key t =
      t.length + value.length * occurrences key t := by
  induction t using scan (· = key) with
  | nil => simp [occurrences]
  | placeholder k rest hk ih =>
    subst hk
    rw [render_single_placeholder value hkey, occurrences_placeholder hkey hkey, if_pos rfl,
      List.length_append, List.length_append, length_placeholder, Nat.mul_add, Nat.mul_add]
    omega
  | cons p rest hp ih =>
    have hnot : ¬ placeholder key <+: p :: rest := not_prefix_of_not_startsWith hp rfl
    rw [render_single_cons value hnot, occurrences_cons_of_not hnot, List.length_cons,
      List.length_cons]
    omega

/-- If the seam puts no placeholder together, both sides are replaced by themselves. -/
theorem render_single_append (hkey : BraceFree key) {s t : Text}
    (h : occurrences key (s ++ t) = occurrences key s + occurrences key t) :
    render (s ++ t) [(key, value)] = render s [(key, value)] ++ render t [(key, value)] := by
  induction s using scan (· = key) with
  | nil => rfl
  | placeholder k s hk ih =>
    subst hk
    rw [List.append_assoc, render_single_placeholder value hkey,
      render_single_placeholder value hkey, ih, List.append_assoc]
    rw [List.append_assoc, occurrences_placeholder hkey hkey, occurrences_placeholder hkey hkey,
      if_pos rfl] at h
    omega
  | cons p s hp ih =>
    have hnot : ¬ placeholder key <+: p :: s := not_prefix_of_not_startsWith hp rfl
    have hle : occurrences key s + occurrences key t ≤ occurrences key (s ++ t) :=
      occurrences_append_le s t
    rw [occurrences_cons_of_not hnot, List.cons_append] at h
    -- a placeholder over the seam would be one too many
    have hseam : ¬ placeholder key <+: p :: (s ++ t) := by
      intro hpre
      rw [occurrences_cons_of_starts hpre] at h
      omega
    rw [occurrences_cons_of_not hseam] at h
    rw [List.cons_append, render_single_cons value hseam, ih h, render_single_cons value hnot,
      List.cons_append]

end Template

end ImageDiscovery
