import ImageDiscovery.Proofs.Template.Occurrences

/-!
# Two passes — one key filled in after the others

A template may be rendered with some pairs first and with one more key afterwards.  The second pass
reads what the first one brought in, so the two give what a single pass with all pairs gives exactly
if the first pass puts no placeholder of that key together (`render_render_eq_iff`).  If it does, what
a single pass gives is not resolved (`render?_cons_eq_none`).
-/

namespace ImageDiscovery

namespace Template

/-- A key is left to a second pass: the pairs of the first have no value for it, or the template has
    no placeholder for it. -/
def LeftOver (pairs : List (Text × Text)) (key t : Text) : Prop :=
  valueOf pairs key = none ∨ occurrences key t = 0

variable {pairs : List (Text × Text)} {key : Text}

theorem LeftOver.of_placeholder (hkey : BraceFree key) {other rest : Text} (ho : BraceFree other)
    (h : LeftOver pairs key (placeholder other ++ rest)) :
    LeftOver pairs key rest ∧ (other = key → valueOf pairs key = none) := by
  rw [LeftOver, occurrences_placeholder hkey ho] at h
  refine ⟨h.imp_right fun h0 => by omega, fun he => h.resolve_right ?_⟩
  rw [if_pos he]
  omega

theorem LeftOver.of_cons {p : CodePoint} {rest : Text} (h : LeftOver pairs key (p :: rest)) :
    LeftOver pairs key rest := by
  refine h.imp_right fun h0 => ?_
  rw [occurrences] at h0
  omega

/-! ## What the first pass puts together -/

/-- The first pass takes no placeholder of the key away. -/
theorem occurrences_le_render (hkey : BraceFree key) {t : Text} (h : LeftOver pairs key t) :
    occurrences key t ≤ occurrences key (render t pairs) := by
  induction t using scan BraceFree with
  | nil => exact Nat.le_refl _
  | placeholder k rest hk ih =>
    rcases h.of_placeholder hkey hk with ⟨hrest, hnone⟩
    have ih := ih hrest
    rw [render_placeholder pairs hk, occurrences_placeholder hkey hk]
    by_cases he : k = key
    · -- it stays as it is
      subst he
      rw [hnone rfl, Option.getD_none, if_pos rfl, occurrences_placeholder hkey hkey, if_pos rfl]
      omega
    · -- what takes the place of another key may only add some
      rw [if_neg he, Nat.zero_add]
      have hle : occurrences key (render rest pairs) ≤ occurrences key
          ((valueOf pairs k).getD (placeholder k) ++ render rest pairs) :=
        Nat.le_trans (Nat.le_add_left _ _) (occurrences_append_le _ _)
      omega
  | cons p rest hp ih =>
    have ih := ih h.of_cons
    rw [render_cons pairs hp, occurrences_cons_of_not (not_prefix_of_not_startsWith hp hkey),
      occurrences]
    omega

private theorem render_single_piece (hkey : BraceFree key) (value : Text) {v r : Text} {n : Nat}
    (h : occurrences key (v ++ r) = n) (hr : n ≤ occurrences key r) :
    render (v ++ r) [(key, value)] = v ++ render r [(key, value)] ∧ occurrences key r = n := by
  have hle : occurrences key v + occurrences key r ≤ occurrences key (v ++ r) :=
    occurrences_append_le v r
  -- `v` adds no placeholder, alone or over the seam, so the second pass leaves it
  have hv : occurrences key v = 0 := by omega
  refine ⟨?_, by omega⟩
  rw [render_single_append value hkey (by omega), render_single_of_occurrences_eq_zero value hv]

/-- If the first pass puts no placeholder together, two passes are one. -/
theorem render_render_of_occurrences_eq (hkey : BraceFree key) (value : Text) {t : Text}
    (h : LeftOver pairs key t) (hn : occurrences key (render t pairs) = occurrences key t) :
    render (render t pairs) [(key, value)] = render t ((key, value) :: pairs) := by
  induction t using scan BraceFree with
  | nil => rfl
  | placeholder k rest hk ih =>
    rcases h.of_placeholder hkey hk with ⟨hrest, hnone⟩
    have hle := occurrences_le_render hkey hrest
    rw [render_placeholder pairs hk, occurrences_placeholder hkey hk] at hn
    rw [render_placeholder pairs hk, render_placeholder _ hk, valueOf_cons]
    by_cases he : k = key
    · subst he
      rw [hnone rfl, Option.getD_none, occurrences_placeholder hkey hkey, if_pos rfl] at hn
      rw [hnone rfl, Option.getD_none, render_single_placeholder value hkey, if_pos rfl,
        Option.getD_some, ih hrest (by omega)]
    · rw [if_neg he, Nat.zero_add] at hn
      rcases render_single_piece hkey value hn hle with ⟨hpiece, hsame⟩
      rw [hpiece, ih hrest hsame, if_neg (Ne.symm he)]
  | cons p rest hp ih =>
    have hle := occurrences_le_render hkey h.of_cons
    rw [render_cons pairs hp, occurrences_cons_of_not (not_prefix_of_not_startsWith hp hkey),
      ← List.singleton_append] at hn
    rcases render_single_piece hkey value hn hle with ⟨hpiece, hsame⟩
    rw [render_cons pairs hp, render_cons _ hp, ← List.singleton_append, hpiece,
      ih h.of_cons hsame, List.singleton_append]

theorem length_render_cons (hkey : BraceFree key) (value : Text) {t : Text}
    (h : LeftOver pairs key t) :
    (render t ((key, value) :: pairs)).length + (key.length + 2) * occurrences key t =
      (render t pairs).length + value.length * occurrences key t := by
  induction t using scan BraceFree with
  | nil => simp [occurrences]
  | placeholder k rest hk ih =>
    rcases h.of_placeholder hkey hk with ⟨hrest, hnone⟩
    have ih := ih hrest
    rw [render_placeholder pairs hk, render_placeholder _ hk, valueOf_cons,
      occurrences_placeholder hkey hk, List.length_append, List.length_append]
    by_cases he : k = key
    · subst he
      rw [hnone rfl, if_pos rfl, if_pos rfl, Option.getD_some, Option.getD_none,
        length_placeholder, Nat.mul_add, Nat.mul_add]
      omega
    · rw [if_neg he, if_neg (Ne.symm he), Nat.zero_add]
      omega
  | cons p rest hp ih =>
    have ih := ih h.of_cons
    rw [render_cons pairs hp, render_cons _ hp,
      occurrences_cons_of_not (not_prefix_of_not_startsWith hp hkey), List.length_cons,
      List.length_cons]
    omega

/-- **Two passes are one** exactly if the first puts no placeholder of the last key together, for a
    value that is not as long as the placeholder. -/
theorem render_render_eq_iff (hkey : BraceFree key) {value : Text}
    (hlen : value.length ≠ key.length + 2) {t : Text} (h : LeftOver pairs key t) :
    render (render t pairs) [(key, value)] = render t ((key, value) :: pairs) ↔
      occurrences key (render t pairs) = occurrences key t := by
  refine ⟨fun he => ?_, render_render_of_occurrences_eq hkey value h⟩
  have htwo := length_render_single value hkey (render t pairs)
  have hone := length_render_cons hkey value h
  rcases Nat.exists_eq_add_of_le (occurrences_le_render hkey h) with ⟨d, hd⟩
  rw [he, hd, Nat.mul_add, Nat.mul_add] at htwo
  -- each placeholder too many changes the length by the same amount
  have hprod : (key.length + 2) * d = value.length * d := by omega
  have hd0 : d = 0 := by
    rcases Nat.eq_zero_or_pos d with h0 | hpos
    · exact h0
    · exact absurd (Nat.eq_of_mul_eq_mul_right hpos hprod).symm hlen
  rw [hd, hd0, Nat.add_zero]

/-! ## Tidy templates -/

/-- Every opening brace opens a placeholder. -/
def Tidy (t : Text) : Prop :=
  ∀ before rest, t = before ++ .char '{' :: rest → StartsWith BraceFree (.char '{' :: rest)

theorem Tidy.of_append {s t : Text} (h : Tidy (s ++ t)) : Tidy t :=
  fun before rest e => h (s ++ before) rest (by rw [e, List.append_assoc])

theorem valueOf_mem {value : Text} (h : valueOf pairs key = some value) :
    (key, value) ∈ pairs := by
  rw [valueOf, Option.map_eq_some_iff] at h
  rcases h with ⟨⟨k, v⟩, hfind, rfl⟩
  have hk : k = key := by simpa using List.find?_some hfind
  exact hk ▸ List.mem_of_find?_eq_some hfind

/-- Values without opening braces put nothing together in a tidy template. -/
theorem occurrences_render_of_tidy (hkey : BraceFree key)
    (hvalues : ∀ pair ∈ pairs, CodePoint.char '{' ∉ pair.2) {t : Text} (ht : Tidy t)
    (h : LeftOver pairs key t) : occurrences key (render t pairs) = occurrences key t := by
  induction t using scan BraceFree with
  | nil => rfl
  | placeholder k rest hk ih =>
    rcases h.of_placeholder hkey hk with ⟨hrest, hnone⟩
    have ih := ih ht.of_append hrest
    rw [render_placeholder pairs hk, occurrences_placeholder hkey hk]
    cases hv : valueOf pairs k with
    | none => rw [Option.getD_none, occurrences_placeholder hkey hk, ih]
    | some value =>
      have hne : k ≠ key := by
        rintro rfl
        rw [hnone rfl] at hv
        exact absurd hv (by simp)
      rw [Option.getD_some, occurrences_append_of_not_mem (hvalues _ (valueOf_mem hv)), ih,
        if_neg hne, Nat.zero_add]
  | cons p rest hp ih =>
    have hbrace : p ≠ .char '{' := fun e => hp (e ▸ ht [] rest (by simp [e]))
    rw [render_cons pairs hp, occurrences_cons_of_not (not_prefix_of_head_ne hbrace),
      occurrences_cons_of_not (not_prefix_of_head_ne hbrace)]
    rw [← List.singleton_append] at ht
    exact ih ht.of_append h.of_cons

/-! ## What a single pass leaves open -/

private theorem prefix_render_cons (hkey : BraceFree key) (value : Text) {s t : Text}
    (hs : CodePoint.char '{' ∉ s) (h : LeftOver pairs key t) (hpre : s <+: render t pairs) :
    s <+: render t ((key, value) :: pairs) := by
  induction t using scan BraceFree generalizing s with
  | nil => exact hpre
  | placeholder k rest hk ih =>
    rcases h.of_placeholder hkey hk with ⟨hrest, hnone⟩
    rw [render_placeholder pairs hk] at hpre
    rw [render_placeholder _ hk, valueOf_cons]
    by_cases he : k = key
    · -- the two differ here, but behind the opening brace
      subst he
      rw [hnone rfl, Option.getD_none, placeholder_append, List.prefix_cons_iff] at hpre
      rcases hpre with rfl | ⟨s', rfl, -⟩
      · exact List.nil_prefix
      · exact absurd (List.mem_cons_self) hs
    · rw [if_neg (Ne.symm he)]
      rcases List.prefix_or_prefix_of_prefix hpre (List.prefix_append _ _) with hv | ⟨s', rfl⟩
      · exact hv.trans (List.prefix_append _ _)
      · rw [List.prefix_append_right_inj] at hpre ⊢
        exact ih (fun m => hs (List.mem_append_right _ m)) hrest hpre
  | cons p rest hp ih =>
    rw [render_cons pairs hp, List.prefix_cons_iff] at hpre
    rw [render_cons _ hp]
    rcases hpre with rfl | ⟨s', rfl, hpre⟩
    · exact List.nil_prefix
    · rw [List.prefix_cons_inj]
      exact ih (fun m => hs (.tail _ m)) h.of_cons hpre

private theorem infix_of_occurrences_lt (hkey : BraceFree key) {v r r' : Text}
    (h : occurrences key r < occurrences key (v ++ r))
    (hpre : ∀ s, CodePoint.char '{' ∉ s → s <+: r → s <+: r') :
    placeholder key <:+: v ++ r' := by
  induction v with
  | nil => exact absurd h (Nat.lt_irrefl _)
  | cons p v ih =>
    by_cases hp : placeholder key <+: p :: (v ++ r)
    · -- one begins here; it is in `v`, or goes on in `r` up to a point before the next brace
      apply List.IsPrefix.isInfix
      rw [← List.cons_append] at hp
      rcases List.prefix_or_prefix_of_prefix hp (List.prefix_append _ _) with hv | ⟨s, hs⟩
      · exact hv.trans (List.prefix_append _ _)
      · rw [← hs, List.prefix_append_right_inj] at hp ⊢
        refine hpre s ?_ hp
        -- behind its first code point a placeholder has no opening brace
        rw [placeholder, List.cons_append, List.cons_append, List.cons.injEq] at hs
        intro hmem
        have := hs.2 ▸ List.mem_append_right v hmem
        simp [hkey.1] at this
    · rw [List.cons_append, occurrences_cons_of_not hp] at h
      exact List.infix_cons (ih h)

/-- A placeholder too many after the first pass stands, as text, in what a single pass gives. -/
theorem infix_render_cons (hkey : BraceFree key) (value : Text) {t : Text}
    (h : LeftOver pairs key t) (hlt : occurrences key t < occurrences key (render t pairs)) :
    placeholder key <:+: render t ((key, value) :: pairs) := by
  induction t using scan BraceFree with
  | nil => exact absurd hlt (Nat.lt_irrefl _)
  | placeholder k rest hk ih =>
    rcases h.of_placeholder hkey hk with ⟨hrest, hnone⟩
    rw [render_placeholder pairs hk, occurrences_placeholder hkey hk] at hlt
    rw [render_placeholder _ hk, valueOf_cons]
    by_cases he : k = key
    · subst he
      rw [hnone rfl, Option.getD_none, occurrences_placeholder hkey hkey, if_pos rfl] at hlt
      rw [if_pos rfl]
      exact List.infix_append_of_infix_right (ih hrest (by omega))
    · rw [if_neg he, Nat.zero_add] at hlt
      rw [if_neg (Ne.symm he)]
      -- the one too many is in the rest, or the value and the rest make it together
      by_cases hin : occurrences key rest < occurrences key (render rest pairs)
      · exact List.infix_append_of_infix_right (ih hrest hin)
      · exact infix_of_occurrences_lt hkey (by omega)
          fun s hs => prefix_render_cons hkey value hs hrest
  | cons p rest hp ih =>
    rw [render_cons pairs hp,
      occurrences_cons_of_not (not_prefix_of_not_startsWith hp hkey)] at hlt
    rw [render_cons _ hp]
    by_cases hin : occurrences key rest < occurrences key (render rest pairs)
    · exact List.infix_cons (ih h.of_cons hin)
    · rw [← List.singleton_append] at hlt ⊢
      exact infix_of_occurrences_lt hkey (by omega)
        fun s hs => prefix_render_cons hkey value hs h.of_cons

/-! ## Texts that are not resolved -/

private theorem hasExpression_of_opened {inner : Text} (h : CodePoint.char '\n' ∉ inner)
    (rest : Text) : hasExpression true (inner ++ .char '}' :: rest) = true := by
  induction inner with
  | nil => rfl
  | cons p inner ih =>
    have hp : p ≠ .char '\n' := fun e => h (by simp [e])
    have ih := ih fun m => h (.tail _ m)
    rw [List.cons_append, hasExpression, if_neg hp, ih]
    simp

private theorem hasExpression_append {t : Text} (h : ∀ opened, hasExpression opened t = true)
    (s : Text) (opened : Bool) : hasExpression opened (s ++ t) = true := by
  induction s generalizing opened with
  | nil => exact h opened
  | cons p s ih =>
    rw [List.cons_append, hasExpression]
    simp [ih]

theorem not_resolved_of_infix {t : Text} (hline : CodePoint.char '\n' ∉ key)
    (h : placeholder key <:+: t) : resolved t = false := by
  rcases h with ⟨before, after, rfl⟩
  -- a placeholder on one line is an expression, and what is before it does not change that
  have hopen (opened : Bool) : hasExpression opened (placeholder key ++ after) = true := by
    rw [placeholder_append, hasExpression, if_pos rfl]
    exact hasExpression_of_opened hline after
  rw [resolved, List.append_assoc, hasExpression_append hopen, Bool.not_true]

/-- If the first pass puts a placeholder together, a single pass leaves something open. -/
theorem render?_cons_eq_none (hkey : BraceFree key) (hline : CodePoint.char '\n' ∉ key)
    (value : Text) {t : Text} (h : LeftOver pairs key t)
    (hlt : occurrences key t < occurrences key (render t pairs)) :
    render? t ((key, value) :: pairs) = none := by
  rw [render?, not_resolved_of_infix hline (infix_render_cons hkey value h hlt)]
  rfl

end Template

end ImageDiscovery
