import ImageDiscovery.Proofs.Json.Grammar

/-!
# Text forms — texts between quotes are read where their forms stand, and nowhere else

Each point is read from one of its forms, and halves of pairs that come from escapes are joined where
they meet.
-/

namespace ImageDiscovery

namespace Json

variable {r : Reading} {t s rest content : Text} {waiting : Option Nat} {fuel : Nat} {p : CodePoint}

/-! ## Escapes -/

theorem lt_of_hexValue? {w : Nat} (h : p.hexValue? = some w) : w < 16 := by
  unfold CodePoint.hexValue? at h
  dsimp only at h
  split at h
  · cases h
    omega
  · split at h
    · cases h
      omega
    · split at h
      · cases h
        omega
      · exact nomatch h

theorem hex4?_cons {a b c d : CodePoint} {w x y z : Nat} (ha : a.hexValue? = some w)
    (hb : b.hexValue? = some x) (hc : c.hexValue? = some y) (hd : d.hexValue? = some z) (rest : Text) :
    hex4? (a :: b :: c :: d :: rest) = some (((w * 16 + x) * 16 + y) * 16 + z, rest) := by
  rw [hex4?, ha, hb, hc, hd]
  rfl

/-- Four digits after the mark of an escape are the form of a point. -/
theorem exists_unit_of_hex4? {n : Nat} (h : hex4? t = some (n, rest)) :
    ∃ digits p, PointForm (.char '\\' :: .char 'u' :: digits) p ∧ p.toNat = n ∧ t = digits ++ rest := by
  unfold hex4? at h
  split at h
  · rename_i a b c d behind
    obtain ⟨w, hw, h⟩ := Option.bind_eq_some_iff.mp h
    obtain ⟨x, hx, h⟩ := Option.bind_eq_some_iff.mp h
    obtain ⟨y, hy, h⟩ := Option.bind_eq_some_iff.mp h
    obtain ⟨z, hz, h⟩ := Option.bind_eq_some_iff.mp h
    cases h
    have hw' := lt_of_hexValue? hw
    have hx' := lt_of_hexValue? hx
    have hy' := lt_of_hexValue? hy
    have hz' := lt_of_hexValue? hz
    obtain ⟨p, hp⟩ := CodePoint.exists_toNat_eq (n := ((w * 16 + x) * 16 + y) * 16 + z) (by omega)
    exact ⟨[a, b, c, d], p, .unit hw hx hy hz hp, hp, rfl⟩
  · exact nomatch h

theorem letter_of_escaped? {e : CodePoint} (h : escaped? e = some p) :
    ∃ letter c : Char, (letter, c) ∈ letterEscapes ∧ e = .char letter ∧ p = .char c := by
  unfold escaped? at h
  split at h
  case h_9 => exact nomatch h
  all_goals
    cases h
    exact ⟨_, _, by decide, rfl, rfl⟩

theorem escaped?_of_mem : ∀ entry ∈ letterEscapes,
    entry.1 ≠ 'u' ∧ escaped? (.char entry.1) = some (.char entry.2) := by decide

/-! ## What is read -/

theorem encodable_append_right {s t : Text} (h : (s ++ t).Encodable) : t.Encodable := fun p hp =>
  h p (List.mem_append_right _ hp)

theorem joinPoint_char (c : Char) :
    joinPoint waiting (.char c) = ((waiting.bind CodePoint.ofNat?).toList ++ [.char c], none) := rfl

/-- Forms of points up to a closing quote, and what they stand for behind half of a pair. -/
structure RunsUp (waiting : Option Nat) (t content rest : Text) : Prop where
  points : ∃ inner points, PointForms inner points ∧ t = inner ++ .char '"' :: rest ∧
    content = joined waiting points

theorem RunsUp.cons (hform : PointForm s p) (h : RunsUp (joinPoint waiting p).2 t content rest) :
    RunsUp waiting (s ++ t) ((joinPoint waiting p).1 ++ content) rest := by
  obtain ⟨inner, points, hpoints, rfl, rfl⟩ := h.points
  exact ⟨s ++ inner, p :: points, .cons hform hpoints, (List.append_assoc _ _ _).symm, rfl⟩

/-- A character stands behind what has waited for its other half. -/
theorem RunsUp.cons_char {c : Char} (hform : PointForm s (.char c)) (h : RunsUp none t content rest) :
    RunsUp waiting (s ++ t) ((waiting.bind CodePoint.ofNat?).toList ++ .char c :: content) rest := by
  have hcons : RunsUp waiting (s ++ t) ((joinPoint waiting (.char c)).1 ++ content) rest :=
    .cons hform h
  rwa [joinPoint_char, List.append_assoc] at hcons

/-- The points of what is read have their forms up to the closing quote. -/
theorem of_readQuoted (ht : t.Encodable) (h : readQuoted waiting fuel t = some (content, rest)) :
    RunsUp waiting t content rest := by
  induction fuel generalizing waiting t content with
  | zero => exact nomatch h
  | succ fuel ih =>
    cases t with
    | nil => exact nomatch h
    | cons p t =>
      have htail : Text.Encodable t := fun q hq => ht q (.tail _ hq)
      unfold readQuoted at h
      dsimp only at h
      split at h
      · rename_i hquote
        cases h
        exact ⟨[], [], .nil, by rw [hquote]; rfl, rfl⟩
      split at h
      · rename_i hescape
        subst hescape
        split at h
        · rename_i digits
          obtain ⟨⟨unit, behind⟩, hhex, h⟩ := Option.bind_eq_some_iff.mp h
          obtain ⟨⟨content', rest'⟩, hread, heq⟩ := Option.bind_eq_some_iff.mp h
          cases heq
          obtain ⟨digits, p, hform, hp, rfl⟩ := exists_unit_of_hex4? hhex
          have hjoin := joinPoint_eq_joinUnit p waiting
          rw [hp] at hjoin
          have hbehind : behind.Encodable := encodable_append_right (s := .char 'u' :: digits) htail
          rw [← hjoin] at hread ⊢
          exact (ih hbehind hread).cons hform
        · rename_i e behind hunit
          obtain ⟨c, hletter, h⟩ := Option.bind_eq_some_iff.mp h
          obtain ⟨⟨content', rest'⟩, hread, heq⟩ := Option.bind_eq_some_iff.mp h
          cases heq
          obtain ⟨letter, c, hmem, rfl, rfl⟩ := letter_of_escaped? hletter
          have hbehind : Text.Encodable behind := fun q hq => htail q (.tail _ hq)
          exact (ih hbehind hread).cons_char (.letter hmem)
        · exact nomatch h
      split at h
      · exact nomatch h
      · rename_i hquote hescape hcontrol
        obtain ⟨⟨content', rest'⟩, hread, heq⟩ := Option.bind_eq_some_iff.mp h
        cases heq
        cases p with
        | lone half => exact absurd (ht _ List.mem_cons_self) Bool.false_ne_true
        | char c =>
          have hform : PointForm [.char c] (.char c) :=
            .plain (fun e => hquote (congrArg _ e)) (fun e => hescape (congrArg _ e))
              (Nat.not_lt.mp hcontrol)
          exact (ih htail hread).cons_char hform

theorem of_readText (hr : r.loneSurrogates = false) (ht : t.Encodable)
    (h : readText r t = some (content, rest)) :
    ∃ form, TextForm form content ∧ .char '"' :: t = form ++ rest := by
  obtain ⟨⟨content', rest'⟩, hread, h⟩ := Option.bind_eq_some_iff.mp h
  dsimp only at h
  split at h
  · rename_i htaken
    cases h
    rw [hr, Bool.false_or, decide_eq_true_eq] at htaken
    obtain ⟨inner, points, hpoints, rfl, hcontent⟩ := (of_readQuoted ht hread).points
    rw [joined_eq_paired] at hcontent
    refine ⟨.char '"' :: (inner ++ [.char '"']), ⟨htaken, inner, points, rfl, hpoints, hcontent⟩, ?_⟩
    rw [List.cons_append, List.append_assoc]
    rfl
  · exact nomatch h

/-! ## What stands there is read -/

theorem readQuoted_of_pointForm {after : Text} (h : PointForm s p)
    (hrest : readQuoted (joinPoint waiting p).2 fuel rest = some (content, after)) :
    readQuoted waiting (fuel + 1) (s ++ rest) = some ((joinPoint waiting p).1 ++ content, after) := by
  cases h with
  | plain hquote hescape hcontrol =>
    rw [joinPoint_char, List.append_assoc]
    exact readQuoted_plain (by simpa using hquote) (by simpa using hescape) (Nat.not_lt.mpr hcontrol)
      hrest
  | letter hmem =>
    obtain ⟨hunit, hletter⟩ := escaped?_of_mem _ hmem
    rw [joinPoint_char, List.append_assoc]
    exact readQuoted_escaped hunit hletter hrest
  | unit ha hb hc hd hp =>
    rw [joinPoint_eq_joinUnit, hp] at hrest ⊢
    exact readQuoted_hex (hex4?_cons ha hb hc hd rest) hrest

theorem PointForm.length_pos (h : PointForm s p) : 0 < s.length := by
  cases h <;> exact Nat.succ_pos _

theorem readQuoted_of_pointForms {inner points : Text} (h : PointForms inner points) (rest : Text) :
    ∀ waiting fuel, inner.length < fuel →
      readQuoted waiting fuel (inner ++ .char '"' :: rest) = some (joined waiting points, rest) := by
  induction h with
  | nil =>
    intro waiting fuel hfuel
    obtain ⟨fuel, rfl⟩ := Nat.exists_eq_succ_of_ne_zero (Nat.ne_zero_of_lt hfuel)
    exact readQuoted_quote
  | cons hfirst hrest ih =>
    intro waiting fuel hfuel
    obtain ⟨fuel, rfl⟩ := Nat.exists_eq_succ_of_ne_zero (Nat.ne_zero_of_lt hfuel)
    have hpos := hfirst.length_pos
    rw [List.length_append] at hfuel
    rw [List.append_assoc]
    exact readQuoted_of_pointForm hfirst (ih _ fuel (by omega))

/-- A text form is a quote, and what the reader takes behind it. -/
theorem TextForm.exists_readText (h : TextForm t content) :
    ∃ behind, t = .char '"' :: behind ∧ ∀ r rest, readText r (behind ++ rest) = some (content, rest) := by
  obtain ⟨inner, points, rfl, hpoints, hcontent⟩ := h.points
  refine ⟨inner ++ [.char '"'], rfl, fun r rest => ?_⟩
  have hread := readQuoted_of_pointForms hpoints rest none ((inner ++ .char '"' :: rest).length + 1)
    (by rw [List.length_append]; omega)
  rw [joined_eq_paired, ← hcontent] at hread
  rw [List.append_assoc]
  show (readQuoted none _ _ >>= _) = _
  rw [List.singleton_append, hread]
  show (if (r.loneSurrogates || decide content.Encodable) = true then _ else _) = _
  rw [decide_eq_true h.encodable, Bool.or_true]
  rfl

end Json

end ImageDiscovery
