import ImageDiscovery.Html.Reader

/-!
# Progress — what one more character adds

A reader adds to what it found when it reads the `>` that ends the tag of a meta element, and never
otherwise.  What a character is read as depends on the characters before it, and, of those after it, only
on a line feed behind a carriage return.
-/

namespace ImageDiscovery

namespace Html

/-! ## Tags -/

/-- A tag goes on up to its `>`. -/
theorem Draft.exists_more {c : Char} (hc : c ≠ '>') (d : Draft) (place : TagPlace) :
    ∃ d' place', d.step c place = .more d' place' := by
  have hspace : ∀ d : Draft, ∃ d' place', d.spaceStep c = .more d' place' := by
    intro d
    unfold spaceStep
    rw [if_neg hc]
    split
    · exact ⟨_, _, rfl⟩
    · split <;> exact ⟨_, _, rfl⟩
  cases place with
  | name =>
    simp only [step, if_neg hc]
    split
    · exact ⟨_, _, rfl⟩
    · split <;> exact ⟨_, _, rfl⟩
  | space => exact hspace d
  | key =>
    simp only [step, if_neg hc]
    split
    · exact ⟨_, _, rfl⟩
    · split
      · exact ⟨_, _, rfl⟩
      · split <;> exact ⟨_, _, rfl⟩
  | afterKey =>
    simp only [step]
    split
    · exact ⟨_, _, rfl⟩
    · split
      · exact ⟨_, _, rfl⟩
      · exact hspace _
  | equals =>
    simp only [step, if_neg hc]
    split
    · exact ⟨_, _, rfl⟩
    · split <;> exact ⟨_, _, rfl⟩
  | quoted quote =>
    simp only [step]
    split <;> exact ⟨_, _, rfl⟩
  | unquoted =>
    simp only [step, if_neg hc]
    split <;> exact ⟨_, _, rfl⟩
  | slash =>
    simp only [step, if_neg hc]
    exact hspace d

/-- A tag that is complete closes an element if it began so. -/
theorem Draft.closing_of_step {d : Draft} {place : TagPlace} {c : Char} {t : Tag}
    (h : d.step c place = .complete t) : t.closing = d.closing := by
  have hcomplete : ∀ (d : Draft) (selfClosing : Bool), d.complete selfClosing = .complete t →
      t.closing = d.closing := by
    intro d selfClosing hd
    rw [← TagStep.complete.inj hd]
  have hend : ∀ d : Draft, d.endAttribute.closing = d.closing := by
    intro d
    unfold endAttribute
    dsimp only
    split <;> rfl
  have hspace : ∀ d : Draft, d.spaceStep c = .complete t → t.closing = d.closing := by
    intro d hd
    unfold spaceStep at hd
    split at hd
    · cases hd
    · split at hd
      · cases hd
      · split at hd
        · exact hcomplete d false hd
        · cases hd
  cases place with
  | space => exact hspace d h
  | afterKey =>
    simp only [step] at h
    split at h
    · cases h
    · split at h
      · cases h
      · exact (hspace _ h).trans (hend d)
  | slash =>
    simp only [step] at h
    split at h
    · exact hcomplete d true h
    · exact hspace d h
  | quoted quote =>
    simp only [step] at h
    split at h <;> cases h
  | name | key | equals | unquoted =>
    -- of the branches of a step, one completes the tag
    simp only [step] at h
    repeat' split at h
    all_goals first
      | exact hcomplete d false h
      | cases h

/-! ## Nesting -/

namespace Nesting

variable {n : Nesting}

theorem halted_push (h : n.halted = true) (name : String) : (n.push name).halted = true := by
  unfold push
  split
  · rfl
  · exact h

theorem halted_imply (h : n.halted = true) (name : String) : (n.imply name).halted = true := by
  unfold imply
  split
  · exact h
  · -- the root element may be opened first, and all else is opened in what comes of that
    have hopened : (if n.opened.isEmpty then n.push "html" else n).halted = true := by
      split
      · exact halted_push h _
      · exact h
    revert hopened
    generalize (if n.opened.isEmpty then n.push "html" else n) = m
    intro hopened
    dsimp only
    repeat' split
    all_goals first
      | exact hopened
      | exact halted_push hopened _

/-- Nothing begins when elements have nested too deep. -/
theorem not_halted_of_enter {name : String} {closed : Bool} (h : (n.enter name closed).2 = true) :
    n.halted = false := by
  rw [Bool.eq_false_iff]
  intro hhalted
  have himplied : ((n.closeFor name).imply name).halted = true :=
    halted_imply (n := n.closeFor name) hhalted name
  unfold enter at h
  rw [if_pos himplied] at h
  cases h

end Nesting

/-! ## Readers -/

namespace Reader

variable {r : Reader} {c : Char} {t : Tag}

/-- A `>` ends the tag of a meta element here, and that may begin. -/
structure Ends (r : Reader) (t : Tag) : Prop where
  tag : ∃ d place, r.state = .tag d place ∧ d.step '>' place = .complete t
  opening : t.closing = false
  name : String.ofList t.name = wanted
  begins : (r.nesting.enter wanted t.selfClosing).2 = true

theorem Ends.unique {t' : Tag} (h : r.Ends t) (h' : r.Ends t') : t = t' := by
  obtain ⟨d, place, hstate, hstep⟩ := h.tag
  obtain ⟨d', place', hstate', hstep'⟩ := h'.tag
  rw [hstate'] at hstate
  cases hstate
  exact TagStep.complete.inj (hstep.symm.trans hstep')

theorem found_take (r : Reader) (t : Tag) :
    (r.take t).found = r.found ∨
      t.closing = false ∧ String.ofList t.name = wanted ∧
        (r.nesting.enter wanted t.selfClosing).2 = true ∧ (r.take t).found = t :: r.found := by
  unfold take
  dsimp only
  cases hclosing : t.closing with
  | true => exact .inl rfl
  | false =>
    rw [if_neg Bool.false_ne_true]
    by_cases hfound : ((r.nesting.enter (String.ofList t.name) t.selfClosing).2 &&
        String.ofList t.name == wanted) = true
    · have hname : String.ofList t.name = wanted := eq_of_beq (Bool.and_eq_true_iff.mp hfound).2
      have hbegins := (Bool.and_eq_true_iff.mp hfound).1
      rw [hname] at hbegins
      exact .inr ⟨rfl, hname, hbegins, if_pos hfound⟩
    · exact .inl (if_neg hfound)

theorem found_tagStep (r : Reader) (d : Draft) (place : TagPlace) (c : Char) :
    (r.tagStep d place c).found = r.found ∨
      ∃ t, d.step c place = .complete t ∧ t.closing = false ∧ String.ofList t.name = wanted ∧
        (r.nesting.enter wanted t.selfClosing).2 = true ∧
        (r.tagStep d place c).found = t :: r.found := by
  unfold tagStep
  cases hstep : d.step c place with
  | more d' place' => exact .inl rfl
  | complete t => exact (r.found_take t).imp_right fun hfound => ⟨t, rfl, hfound⟩

theorem found_textStep (r : Reader) (c : Char) : (r.textStep c).found = r.found := by
  unfold textStep
  split
  · rfl
  · split <;> rfl

/-- A step adds the tag that it ends, if that is the tag of a meta element. -/
theorem found_step (r : Reader) (c : Char) :
    (r.step c).found = r.found ∨ c = '>' ∧ ∃ t, r.Ends t ∧ (r.step c).found = t :: r.found := by
  unfold step
  by_cases hhalted : r.nesting.halted = true
  · rw [if_pos hhalted]
    exact .inl rfl
  rw [if_neg hhalted]
  -- a letter begins a tag and does not end one
  have hbegin : ∀ closing, c.isAlpha = true →
      (r.tagStep { closing } .name c).found = r.found := by
    intro closing halpha
    have hne : c ≠ '>' := by
      rintro rfl
      exact absurd halpha (by decide)
    obtain ⟨d', place', hmore⟩ := Draft.exists_more hne { closing } .name
    rw [tagStep, hmore]
    rfl
  cases hstate : r.state with
  | text => exact .inl (r.found_textStep c)
  | lessThan =>
    left
    dsimp only
    split
    · rename_i halpha
      exact hbegin false halpha
    · split
      · rfl
      · split
        · rfl
        · split
          · rfl
          · exact found_textStep _ c
  | slash =>
    left
    dsimp only
    split
    · rename_i halpha
      exact hbegin true halpha
    · rfl
  | declaration dash =>
    left
    dsimp only
    split <;> rfl
  | skipped => exact .inl rfl
  | comment place =>
    left
    dsimp only
    split <;> rfl
  | tag d place =>
    refine (r.found_tagStep d place c).imp_right ?_
    rintro ⟨t, hstep, hopening, hname, hbegins, hfound⟩
    have hc : c = '>' := by
      apply Decidable.byContradiction
      intro hne
      obtain ⟨d', place', hmore⟩ := Draft.exists_more hne d place
      rw [hmore] at hstep
      cases hstep
    subst hc
    exact ⟨rfl, t, ⟨⟨d, place, hstate, hstep⟩, hopening, hname, hbegins⟩, hfound⟩
  | raw content =>
    left
    dsimp only
    split
    · rfl
    · -- what ends here is the closing tag of the element
      rename_i hcloses
      apply (r.found_tagStep _ .name c).resolve_right
      rintro ⟨t, hstep, hopening, -⟩
      rw [Draft.closing_of_step hstep] at hopening
      cases hopening
  | plain => exact .inl rfl

theorem found_step_of_ne (r : Reader) (hc : c ≠ '>') : (r.step c).found = r.found :=
  (r.found_step c).resolve_right fun h => hc h.1

theorem found_step_of_ends (h : r.Ends t) : (r.step '>').found = t :: r.found := by
  obtain ⟨d, place, hstate, hstep⟩ := h.tag
  have hhalted : r.nesting.halted = false := Nesting.not_halted_of_enter h.begins
  have hname : String.ofList t.name = "meta" := h.name
  have hbegins : (r.nesting.enter "meta" t.selfClosing).2 = true := h.begins
  unfold step
  rw [hhalted, if_neg Bool.false_ne_true, hstate]
  dsimp only
  rw [tagStep, hstep]
  dsimp only
  rw [take, h.opening, if_neg Bool.false_ne_true, hname]
  show (if _ then _ else _) = _
  rw [hbegins]
  rfl

theorem found_step_of_not_ends (h : ∀ t, ¬ r.Ends t) : (r.step c).found = r.found :=
  (r.found_step c).resolve_right fun ⟨_, t, ht, _⟩ => h t ht

theorem found_run_of_not_mem (r : Reader) {cs : List Char} (h : '>' ∉ cs) :
    (r.run cs).found = r.found := by
  induction cs generalizing r with
  | nil => rfl
  | cons c cs ih =>
    rw [List.mem_cons, not_or] at h
    show ((r.step c).run cs).found = _
    rw [ih _ h.2, r.found_step_of_ne (Ne.symm h.1)]

end Reader

/-! ## Characters as they are read -/

/-- What comes behind is read by itself, but for a line feed whose carriage return stands before it. -/
theorem exists_normalized_append (cs ds : List Char) :
    ∃ rest, normalized (cs ++ ds) = normalized cs ++ normalized rest ∧
      (rest = ds ∨ ds = '\n' :: rest) := by
  induction cs using normalized.induct with
  | case1 => exact ⟨ds, rfl, .inl rfl⟩
  | case2 cs ih =>
    obtain ⟨rest, hrest, hds⟩ := ih
    exact ⟨rest, congrArg ('\n' :: ·) hrest, hds⟩
  | case3 cs hcs ih =>
    have hline : normalized ('\r' :: cs) = '\n' :: normalized cs := by
      rw [normalized]
      exact hcs
    cases cs with
    | cons c cs =>
      obtain ⟨rest, hrest, hds⟩ := ih
      have hline' : normalized ('\r' :: c :: cs ++ ds) = '\n' :: normalized (c :: cs ++ ds) := by
        rw [List.cons_append, normalized]
        intro tail htail
        exact hcs cs (by rw [(List.cons.inj htail).1])
      refine ⟨rest, ?_, hds⟩
      rw [hline, hline', hrest]
      rfl
    | nil =>
      -- the line feed that may stand here belongs to the carriage return
      cases ds with
      | nil => exact ⟨[], rfl, .inl rfl⟩
      | cons d ds =>
        by_cases hd : d = '\n'
        · subst hd
          exact ⟨ds, rfl, .inr rfl⟩
        · refine ⟨d :: ds, ?_, .inl rfl⟩
          show normalized ('\r' :: d :: ds) = _
          rw [normalized]
          · rfl
          · intro tail htail
            exact hd (List.cons.inj htail).1
  | case4 cs ih =>
    obtain ⟨rest, hrest, hds⟩ := ih
    exact ⟨rest, congrArg ('\uFFFD' :: ·) hrest, hds⟩
  | case5 c cs hline hreturn hnull ih =>
    obtain ⟨rest, hrest, hds⟩ := ih
    have hkept : ∀ tail, normalized (c :: tail) = c :: normalized tail := by
      intro tail
      rw [normalized]
      · intro tail' hc
        exact absurd hc hreturn
      · exact hreturn
      · exact hnull
    refine ⟨rest, ?_, hds⟩
    rw [List.cons_append, hkept, hkept, hrest]
    rfl

theorem mem_of_mem_normalized {cs : List Char} (h : '>' ∈ normalized cs) : '>' ∈ cs := by
  induction cs using normalized.induct with
  | case1 => cases h
  | case2 cs ih => exact .tail _ (.tail _ (ih (List.mem_of_ne_of_mem (by decide) h)))
  | case3 cs hcs ih =>
    rw [normalized] at h
    · exact .tail _ (ih (List.mem_of_ne_of_mem (by decide) h))
    · exact hcs
  | case4 cs ih => exact .tail _ (ih (List.mem_of_ne_of_mem (by decide) h))
  | case5 c cs hline hreturn hnull ih =>
    rw [normalized] at h
    · cases h with
      | head => exact .head _
      | tail _ h => exact .tail _ (ih h)
    · intro tail' hc
      exact absurd hc hreturn
    · exact hreturn
    · exact hnull

/-- Characters without a `>` add nothing to what was found. -/
theorem found_run_normalized_append (r : Reader) (cs : List Char) {ds : List Char} (h : '>' ∉ ds) :
    (r.run (normalized (cs ++ ds))).found = (r.run (normalized cs)).found := by
  obtain ⟨rest, hrest, hds⟩ := exists_normalized_append cs ds
  have hnot : '>' ∉ normalized rest := by
    intro hmem
    apply h
    cases hds with
    | inl hsame => exact hsame ▸ mem_of_mem_normalized hmem
    | inr hfeed => exact hfeed ▸ .tail _ (mem_of_mem_normalized hmem)
  rw [hrest, Reader.run_append, Reader.found_run_of_not_mem _ hnot]

theorem run_normalized_append_end (r : Reader) (cs : List Char) :
    r.run (normalized (cs ++ ['>'])) = (r.run (normalized cs)).step '>' := by
  obtain ⟨rest, hrest, hds⟩ := exists_normalized_append cs ['>']
  have hsame : rest = ['>'] := by
    cases hds with
    | inl hsame => exact hsame
    | inr hfeed => exact absurd (List.cons.inj hfeed).1 (by decide)
  subst hsame
  rw [hrest, Reader.run_append]
  rfl

end Html

end ImageDiscovery
