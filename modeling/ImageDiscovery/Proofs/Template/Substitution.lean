import ImageDiscovery.Template

/-!
# Substitution — what one pass over a template does

`render` reads a template by a small machine.  Here it is described from outside: at a placeholder it
puts the value of the key (`render_placeholder`), elsewhere it keeps the code point (`render_cons`),
and `scan` is the induction over a template that takes these two steps.
-/

namespace ImageDiscovery

namespace Template

/-- A text without braces. -/
def BraceFree (t : Text) : Prop := CodePoint.char '{' ∉ t ∧ CodePoint.char '}' ∉ t

instance (t : Text) : Decidable (BraceFree t) := inferInstanceAs (Decidable (_ ∧ _))

/-- A text begins with a placeholder for one of some keys. -/
def StartsWith (keys : Text → Prop) (t : Text) : Prop :=
  ∃ key rest, keys key ∧ t = placeholder key ++ rest

theorem length_placeholder (key : Text) : (placeholder key).length = key.length + 2 := by
  simp [placeholder]

theorem placeholder_append (key rest : Text) :
    placeholder key ++ rest = .char '{' :: (key ++ .char '}' :: rest) := by
  simp [placeholder]

/-- The key of a placeholder and what follows it can be read off the text. -/
theorem placeholder_append_inj {key key' rest rest' : Text} (h : BraceFree key)
    (h' : BraceFree key') (he : placeholder key ++ rest = placeholder key' ++ rest') :
    key = key' ∧ rest = rest' := by
  rw [placeholder_append, placeholder_append, List.cons.injEq] at he
  have hinner := he.2
  clear he
  -- the first closing brace ends the key
  induction key generalizing key' with
  | nil =>
    cases key' with
    | nil => simpa using hinner
    | cons q k' =>
      rw [List.nil_append, List.cons_append, List.cons.injEq] at hinner
      exact absurd (by simp [← hinner.1]) h'.2
  | cons p k ih =>
    cases key' with
    | nil =>
      rw [List.nil_append, List.cons_append, List.cons.injEq] at hinner
      exact absurd (by simp [hinner.1]) h.2
    | cons q k' =>
      rw [List.cons_append, List.cons_append, List.cons.injEq] at hinner
      have hk : BraceFree k := ⟨fun m => h.1 (.tail _ m), fun m => h.2 (.tail _ m)⟩
      have hk' : BraceFree k' := ⟨fun m => h'.1 (.tail _ m), fun m => h'.2 (.tail _ m)⟩
      rcases ih hk hk' hinner.2 with ⟨rfl, rfl⟩
      exact ⟨by rw [hinner.1], rfl⟩

/-! ## The machine from outside -/

private theorem renderFrom_braceFree (pairs : List (Text × Text)) {t : Text} (h : BraceFree t)
    (key rest : Text) :
    renderFrom pairs (some key) (t ++ rest) = renderFrom pairs (some (t.reverse ++ key)) rest := by
  induction t generalizing key with
  | nil => rfl
  | cons p t ih =>
    have hp : p ≠ .char '{' ∧ p ≠ .char '}' :=
      ⟨fun e => h.1 (by simp [e]), fun e => h.2 (by simp [e])⟩
    have ht : BraceFree t := ⟨fun m => h.1 (.tail _ m), fun m => h.2 (.tail _ m)⟩
    -- no brace: the code point is added to what was read since the opening one
    rw [List.cons_append, renderFrom, if_neg hp.1, if_neg hp.2, ih ht]
    simp

private theorem renderFrom_open (pairs : List (Text × Text)) (key t : Text)
    (h : ∀ more rest, BraceFree more → t ≠ more ++ .char '}' :: rest) :
    renderFrom pairs (some key) t = .char '{' :: key.reverse ++ renderFrom pairs none t := by
  induction t generalizing key with
  | nil => simp [renderFrom]
  | cons p t ih =>
    have hclose : p ≠ .char '}' := fun e => h [] t ⟨by simp, by simp⟩ (by simp [e])
    rw [renderFrom.eq_def pairs (some key), renderFrom.eq_def pairs none]
    by_cases hopen : p = .char '{'
    · -- another opening brace gives the last one up
      simp [hopen]
    · simp only [if_neg hopen, if_neg hclose]
      rw [ih]
      · simp
      · -- what would close the brace behind `p` would close it in front of `p` too
        intro more rest hmore e
        have hp : BraceFree (p :: more) :=
          ⟨by simp [Ne.symm hopen, hmore.1], by simp [Ne.symm hclose, hmore.2]⟩
        exact h (p :: more) rest hp (by rw [e, List.cons_append])

@[simp] theorem render_nil (pairs : List (Text × Text)) : render [] pairs = [] := rfl

theorem render_placeholder (pairs : List (Text × Text)) {key : Text} (h : BraceFree key)
    (rest : Text) :
    render (placeholder key ++ rest) pairs =
      (valueOf pairs key).getD (placeholder key) ++ render rest pairs := by
  rw [placeholder_append]
  unfold render
  rw [renderFrom, if_pos rfl, renderFrom_braceFree pairs h]
  have hne : (CodePoint.char '}') ≠ .char '{' := by decide
  rw [renderFrom, if_neg hne, if_pos rfl, List.append_nil, List.reverse_reverse]

theorem render_cons (pairs : List (Text × Text)) {p : CodePoint} {rest : Text}
    (h : ¬ StartsWith BraceFree (p :: rest)) :
    render (p :: rest) pairs = p :: render rest pairs := by
  unfold render
  rw [renderFrom]
  by_cases hp : p = .char '{'
  · rw [if_pos hp, hp, renderFrom_open]
    · rfl
    · intro more after hmore e
      exact h ⟨more, after, hmore, by rw [placeholder_append, hp, e]⟩
  · rw [if_neg hp]

/-- **The induction of one pass.**  A template is empty, begins with a placeholder for one of the
    keys, or begins with a code point that no such placeholder begins with. -/
@[elab_as_elim]
theorem scan (keys : Text → Prop) {motive : Text → Prop} (nil : motive [])
    (placeholder : ∀ key rest, keys key → motive rest → motive (placeholder key ++ rest))
    (cons : ∀ p rest, ¬ StartsWith keys (p :: rest) → motive rest → motive (p :: rest))
    (t : Text) : motive t := by
  induction hn : t.length using Nat.strongRecOn generalizing t with
  | ind n ih =>
    cases t with
    | nil => exact nil
    | cons p rest =>
      by_cases hs : StartsWith keys (p :: rest)
      · rcases hs with ⟨key, after, hkey, e⟩
        rw [e]
        refine placeholder key after hkey (ih after.length ?_ after rfl)
        -- a placeholder has two code points at least, so what follows it is shorter
        have hlen := congrArg List.length e
        rw [List.length_append, length_placeholder] at hlen
        omega
      · exact cons p rest hs (ih rest.length (by simp [← hn]) rest rfl)

theorem render_append_of_not_mem (pairs : List (Text × Text)) {t : Text}
    (h : CodePoint.char '{' ∉ t) (rest : Text) :
    render (t ++ rest) pairs = t ++ render rest pairs := by
  induction t with
  | nil => rfl
  | cons p t ih =>
    have hp : p ≠ .char '{' := fun e => h (by simp [e])
    rw [List.cons_append, render_cons, ih (fun m => h (.tail _ m)), List.cons_append]
    rintro ⟨key, after, -, e⟩
    rw [placeholder_append, List.cons.injEq] at e
    exact hp e.1

/-! ## Values -/

theorem valueOf_cons (pairs : List (Text × Text)) (key value other : Text) :
    valueOf ((key, value) :: pairs) other =
      if key = other then some value else valueOf pairs other := by
  unfold valueOf
  rw [List.find?_cons]
  by_cases h : key = other
  · simp [h]
  · simp [h]

theorem valueOf_eq_none {pairs : List (Text × Text)} {key : Text}
    (h : key ∉ pairs.map Prod.fst) : valueOf pairs key = none := by
  rw [valueOf, Option.map_eq_none_iff, List.find?_eq_none]
  intro pair hpair he
  exact h (List.mem_map.mpr ⟨pair, hpair, by simpa using he⟩)

end Template

end ImageDiscovery
