import ImageDiscovery.Proofs.Template.Resolved
import Mathlib.Logic.ExistsUnique

/-!
# Pieces — a template cut at its placeholders

Every template is a text without placeholders, and then placeholders, each with such a text behind it.
There is one way to cut it like that, since a placeholder neither begins in the text in front of another one
nor reaches into it.  One pass puts the values in and leaves the texts between them as they are.
-/

namespace ImageDiscovery

namespace Template

/-- A text in which no placeholder stands.  Braces may. -/
def Literal (t : Text) : Prop := ¬ Holds BraceFree t

section

variable {key s t rest rest' : Text} {p : CodePoint}

theorem literal_nil : Literal [] := not_holds_nil

theorem literal_cons_iff : Literal (p :: t) ↔ ¬ StartsWith BraceFree (p :: t) ∧ Literal t := by
  rw [Literal, holds_cons_iff, not_or]
  rfl

theorem literal_of_not_mem_opening (h : CodePoint.char '{' ∉ t) : Literal t := by
  rintro ⟨key, -, hmem⟩
  exact h (hmem.subset List.mem_cons_self)

theorem literal_of_not_mem_closing (h : CodePoint.char '}' ∉ t) : Literal t := by
  rintro ⟨key, -, hmem⟩
  exact h (hmem.subset (by simp [placeholder]))

/-! ## Seams -/

/-- What may stand behind a literal: nothing, or another placeholder. -/
def IsSeam (rest : Text) : Prop := rest = [] ∨ StartsWith BraceFree rest

theorem IsSeam.head? (h : IsSeam rest) : ∀ q ∈ rest.head?, q = .char '{' := by
  obtain rfl | ⟨key, after, -, rfl⟩ := h
  · exact nofun
  · rintro q ⟨⟩
    rfl

/-- No placeholder reaches over a seam. -/
theorem placeholder_prefix_of_seam (hkey : BraceFree key) (hs : s ≠ []) (hrest : IsSeam rest)
    (h : placeholder key <+: s ++ rest) : placeholder key <+: s := by
  obtain hshort | ⟨beyond, hbeyond⟩ := List.prefix_or_prefix_of_prefix h (List.prefix_append s rest)
  · exact hshort
  · rw [← hbeyond] at h ⊢
    cases beyond with
    | nil => exact ⟨[], by rw [List.append_nil, List.append_nil]⟩
    | cons q beyond =>
      -- what reaches beyond begins with an opening brace, and there is none inside a placeholder
      obtain ⟨more, hmore⟩ := (List.prefix_append_right_inj s).mp h
      have hq : q = .char '{' := hrest.head? q (by rw [← hmore]; rfl)
      obtain ⟨c, s, rfl⟩ := List.exists_cons_of_ne_nil hs
      have hinner : s ++ q :: beyond = key ++ [.char '}'] := (List.cons.inj hbeyond).2
      have hmem : CodePoint.char '{' ∈ key ++ [CodePoint.char '}'] := by
        rw [← hinner, hq]
        simp
      rw [List.mem_append, List.mem_singleton] at hmem
      exact absurd hmem (not_or.mpr ⟨hkey.1, by decide⟩)

/-- Where a literal ends can be read off the text. -/
theorem nil_of_append_seam (hs : Literal s) (ht : IsSeam rest) (hrest : IsSeam rest')
    (h : rest = t ++ rest') (hpart : t <:+: s) : t = [] := by
  obtain rfl | ⟨key, after, hkey, heq⟩ := ht
  · exact (List.append_eq_nil_iff.mp h.symm).1
  · have hprefix : placeholder key <+: t ++ rest' := ⟨after, by rw [← heq, h]⟩
    refine Decidable.byContradiction fun hne => hs ⟨key, hkey, ?_⟩
    exact (placeholder_prefix_of_seam hkey hne hrest hprefix).isInfix.trans hpart

theorem append_seam_inj (hs : Literal s) (ht : Literal t) (hrest : IsSeam rest)
    (hrest' : IsSeam rest') (h : s ++ rest = t ++ rest') : s = t ∧ rest = rest' := by
  obtain ⟨more, rfl, hmore⟩ | ⟨more, rfl, hmore⟩ := List.append_eq_append_iff.mp h
  · obtain rfl := nil_of_append_seam ht hrest hrest' hmore (List.suffix_append s more).isInfix
    exact ⟨(List.append_nil s).symm, hmore⟩
  · obtain rfl := nil_of_append_seam hs hrest' hrest hmore (List.suffix_append t more).isInfix
    exact ⟨List.append_nil t, hmore.symm⟩

/-- A literal is passed over. -/
theorem render_literal_append (pairs : List (Text × Text)) (hs : Literal s) (hrest : IsSeam rest) :
    render (s ++ rest) pairs = s ++ render rest pairs := by
  induction s with
  | nil => rfl
  | cons p s ih =>
    obtain ⟨hstart, hs⟩ := literal_cons_iff.mp hs
    rw [List.cons_append, render_cons pairs, ih hs, List.cons_append]
    rintro ⟨key, after, hkey, heq⟩
    have hprefix : placeholder key <+: p :: s ++ rest := ⟨after, heq.symm⟩
    obtain ⟨more, hmore⟩ :=
      placeholder_prefix_of_seam hkey (List.cons_ne_nil p s) hrest hprefix
    exact hstart ⟨key, more, hkey, hmore.symm⟩

end

/-! ## Templates in pieces -/

/-- A literal, and then keys, each with the literal behind its placeholder. -/
structure Pieces where
  first : Text
  others : List (Text × Text)

namespace Pieces

def keys (p : Pieces) : List Text := p.others.map Prod.fst

/-- The literals, with something in the place of each key. -/
def fill (value : Text → Text) (p : Pieces) : Text :=
  p.first ++ p.others.flatMap fun (key, literal) => value key ++ literal

/-- The template that was cut. -/
def text (p : Pieces) : Text := p.fill placeholder

structure IsProper (p : Pieces) : Prop where
  first : Literal p.first
  others : ∀ piece ∈ p.others, BraceFree piece.1 ∧ Literal piece.2

variable {p q : Pieces} {first key literal : Text} {others : List (Text × Text)}

theorem isProper_cons_iff :
    IsProper ⟨first, (key, literal) :: others⟩ ↔
      Literal first ∧ BraceFree key ∧ IsProper ⟨literal, others⟩ := by
  constructor
  · rintro ⟨hfirst, hothers⟩
    obtain ⟨⟨hkey, hliteral⟩, hothers⟩ := List.forall_mem_cons.mp hothers
    exact ⟨hfirst, hkey, hliteral, hothers⟩
  · rintro ⟨hfirst, hkey, hliteral, hothers⟩
    exact ⟨hfirst, List.forall_mem_cons.mpr ⟨⟨hkey, hliteral⟩, hothers⟩⟩

/-- The first literal stands in front of the first value and of all that follows it. -/
theorem fill_cons (value : Text → Text) (first key literal : Text) (others : List (Text × Text)) :
    fill value ⟨first, (key, literal) :: others⟩ =
      first ++ (value key ++ fill value ⟨literal, others⟩) := by
  rw [fill, fill, List.flatMap_cons, List.append_assoc]

theorem fill_nil (value : Text → Text) (first : Text) : fill value ⟨first, []⟩ = first :=
  List.append_nil first

theorem fill_congr {value value' : Text → Text} (h : ∀ key ∈ p.keys, value key = value' key) :
    p.fill value = p.fill value' := by
  rw [fill, fill, List.flatMap_def, List.flatMap_def]
  refine congrArg (p.first ++ List.flatten ·) (List.map_congr_left fun piece hpiece => ?_)
  exact congrArg (· ++ piece.2) (h piece.1 (List.mem_map_of_mem hpiece))

theorem isSeam_placeholder (h : IsProper ⟨first, (key, literal) :: others⟩) :
    IsSeam (placeholder key ++ text ⟨literal, others⟩) :=
  .inr ⟨key, _, (isProper_cons_iff.mp h).2.1, rfl⟩

/-! ## One way to cut -/

theorem exists_isProper (t : Text) : ∃ p : Pieces, p.IsProper ∧ p.text = t := by
  induction t using scan BraceFree with
  | nil => exact ⟨⟨[], []⟩, ⟨literal_nil, nofun⟩, rfl⟩
  | placeholder key rest hkey ih =>
    obtain ⟨⟨literal, others⟩, hp, rfl⟩ := ih
    exact ⟨⟨[], (key, literal) :: others⟩, isProper_cons_iff.mpr ⟨literal_nil, hkey, hp⟩,
      fill_cons ..⟩
  | cons c rest hstart ih =>
    obtain ⟨⟨first, others⟩, hp, rfl⟩ := ih
    refine ⟨⟨c :: first, others⟩, ⟨literal_cons_iff.mpr ⟨?_, hp.first⟩, hp.others⟩, rfl⟩
    -- what the literal begins with, the whole text begins with
    rintro ⟨key, after, hkey, heq⟩
    refine hstart ⟨key, after ++ others.flatMap fun (k, l) => placeholder k ++ l, hkey, ?_⟩
    rw [← List.append_assoc, ← heq]
    rfl

theorem text_inj (hp : p.IsProper) (hq : q.IsProper) (h : p.text = q.text) : p = q := by
  obtain ⟨first, others⟩ := p
  obtain ⟨first', others'⟩ := q
  induction others generalizing first first' others' with
  | nil =>
    cases others' with
    | nil =>
      rw [text, text, fill_nil, fill_nil] at h
      rw [h]
    | cons piece others' =>
      obtain ⟨key, literal⟩ := piece
      rw [text, text, fill_nil, fill_cons, ← List.append_nil first] at h
      have hrest := (append_seam_inj hp.first hq.first (.inl rfl) (isSeam_placeholder hq) h).2
      exact nomatch hrest
  | cons piece others ih =>
    obtain ⟨key, literal⟩ := piece
    cases others' with
    | nil =>
      rw [text, text, fill_nil, fill_cons, ← List.append_nil first'] at h
      have hrest := (append_seam_inj hp.first hq.first (isSeam_placeholder hp) (.inl rfl) h).2
      exact nomatch hrest
    | cons piece' others' =>
      obtain ⟨key', literal'⟩ := piece'
      rw [text, text, fill_cons, fill_cons] at h
      obtain ⟨rfl, hrest⟩ :=
        append_seam_inj hp.first hq.first (isSeam_placeholder hp) (isSeam_placeholder hq) h
      obtain ⟨-, hkey, hothers⟩ := isProper_cons_iff.mp hp
      obtain ⟨-, hkey', hothers'⟩ := isProper_cons_iff.mp hq
      obtain ⟨rfl, htext⟩ := placeholder_append_inj hkey hkey' hrest
      obtain ⟨rfl, rfl⟩ := Pieces.mk.inj (ih literal hothers literal' others' hothers' htext)
      rfl

/-! ## Values between literals -/

theorem valueOf_eq_lookup (pairs : List (Text × Text)) (key : Text) :
    valueOf pairs key = pairs.lookup key := by
  induction pairs with
  | nil => rfl
  | cons pair pairs ih =>
    obtain ⟨k, value⟩ := pair
    rw [valueOf_cons, ih, List.lookup_cons]
    by_cases h : k = key
    · rw [if_pos h, h, beq_self_eq_true]
    · rw [if_neg h, beq_eq_false_iff_ne.mpr (Ne.symm h)]

theorem render_text (hp : p.IsProper) (pairs : List (Text × Text)) :
    render p.text pairs = p.fill fun key => (pairs.lookup key).getD (placeholder key) := by
  obtain ⟨first, others⟩ := p
  induction others generalizing first with
  | nil =>
    have hrender := render_literal_append pairs hp.first (.inl rfl)
    rw [List.append_nil, render_nil, List.append_nil] at hrender
    rwa [text, fill_nil, fill_nil]
  | cons piece others ih =>
    obtain ⟨key, literal⟩ := piece
    obtain ⟨hfirst, hkey, hothers⟩ := isProper_cons_iff.mp hp
    have htext : text ⟨first, (key, literal) :: others⟩ =
        first ++ (placeholder key ++ text ⟨literal, others⟩) := fill_cons ..
    rw [htext, fill_cons, render_literal_append pairs hfirst (isSeam_placeholder hp),
      render_placeholder pairs hkey, valueOf_eq_lookup, ih literal hothers]

theorem lookup_of_ne {before after : List (Text × Text)} {pair : Text × Text} (h : key ≠ pair.1) :
    (before ++ pair :: after).lookup key = (before ++ after).lookup key := by
  rw [List.lookup_append, List.lookup_append, List.lookup_cons, beq_eq_false_iff_ne.mpr h]

/-- **One pass over a template.**  Every template is cut into literals and placeholders in exactly one way.
    Rendering puts the first value of each key in the place of its placeholder, just as it is, and leaves
    placeholders of other keys and all literals as they are.  Pairs with keys that are not in the template
    change nothing. -/
theorem existsUnique_pieces_render :
    (∀ template : Text, ∃! p : Pieces, p.IsProper ∧ p.text = template) ∧
      ∀ p : Pieces, p.IsProper → ∀ pairs : List (Text × Text),
        render p.text pairs = p.fill (fun key => (pairs.lookup key).getD (placeholder key)) ∧
        ∀ before pair after, pairs = before ++ pair :: after → pair.1 ∉ p.keys →
          render p.text (before ++ after) = render p.text pairs := by
  refine ⟨fun template => ?_, fun p hp pairs => ⟨render_text hp pairs, ?_⟩⟩
  · obtain ⟨p, hp, htext⟩ := exists_isProper template
    exact ⟨p, ⟨hp, htext⟩, fun q hq => text_inj hq.1 hp (hq.2.trans htext.symm)⟩
  · rintro before pair after rfl hunused
    rw [render_text hp, render_text hp]
    apply fill_congr
    intro key hkey
    rw [lookup_of_ne fun heq => hunused (heq ▸ hkey)]

theorem existsUnique_pieces_render_braces :
    let p : Pieces := ⟨"\x7b", [("name", "\x7d"), ("", "\x7bv"), ("name", "")]⟩
    let pairs : List (Text × Text) := [("version", "1"), ("name", "\x7b\x7d\\1"), ("name", "b")]
    let rendered : Text := "\x7b\x7b\x7d\\1\x7d\x7b\x7d\x7bv\x7b\x7d\\1"
    p.IsProper ∧ p.text = "\x7b\x7bname\x7d\x7d\x7b\x7d\x7bv\x7bname\x7d" ∧
      Text.ofString "version" ∉ p.keys ∧
      render p.text pairs = rendered ∧ render p.text pairs.tail = rendered := by
  intro p pairs rendered
  have hp : p.IsProper := by
    refine ⟨literal_of_not_mem_closing (by decide), ?_⟩
    simp only [p, List.forall_mem_cons]
    exact ⟨⟨by decide, literal_of_not_mem_opening (by decide)⟩,
      ⟨by decide, literal_of_not_mem_closing (by decide)⟩, ⟨by decide, literal_nil⟩, nofun⟩
  have hunused : Text.ofString "version" ∉ p.keys := by decide
  obtain ⟨hrender, hpairs⟩ := existsUnique_pieces_render.2 p hp pairs
  have hfilled : render p.text pairs = rendered := by
    rw [hrender]
    decide
  exact ⟨hp, by decide, hunused, hfilled,
    (hpairs [] ("version", "1") pairs.tail rfl hunused).trans hfilled⟩

end Pieces

end Template

end ImageDiscovery
