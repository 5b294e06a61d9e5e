import ImageDiscovery.Proofs.Url.Scheme
import ImageDiscovery.Url.Loose

/-! References to other documents: what they mean has the scheme of the base, or is what they say. -/

namespace ImageDiscovery

namespace LooseUrl

open Url (IsScheme isSchemePoint)

theorem toNat_of_isSchemePoint {p : CodePoint} (h : isSchemePoint p = true) : 0x20 < p.toNat := by
  simp only [isSchemePoint, CodePoint.isLetter, CodePoint.isDigit, Bool.or_eq_true,
    Bool.and_eq_true, decide_eq_true_eq] at h
  rcases h with (((h | h) | rfl) | rfl) | rfl
  · omega
  · omega
  all_goals decide

/-- A point that breaks no line. -/
def isUnbroken (p : CodePoint) : Bool := p ≠ .char '\t' && p ≠ .char '\r' && p ≠ .char '\n'

theorem isUnbroken_of_lt {p : CodePoint} (h : 0x20 < p.toNat) : isUnbroken p = true := by
  simp only [isUnbroken, Bool.and_eq_true, decide_eq_true_eq]
  refine ⟨⟨?_, ?_⟩, ?_⟩
  all_goals
    rintro rfl
    exact absurd h (by decide)

theorem filter_isUnbroken {t : Text} (h : ∀ p ∈ t, 0x20 < p.toNat) : t.filter isUnbroken = t :=
  List.filter_eq_self.mpr fun p hp => isUnbroken_of_lt (h p hp)

/-- Behind what is kept, nothing is dropped but what breaks lines. -/
theorem cleaned_append_of_ne_nil {front : Text} (h : cleaned front ≠ []) (rest : Text) :
    cleaned (front ++ rest) = cleaned front ++ rest.filter isUnbroken := by
  have hfront : (front.dropWhile fun p => decide (p.toNat ≤ 0x20)).isEmpty = false := by
    rw [List.isEmpty_eq_false_iff]
    intro hnil
    apply h
    rw [cleaned, hnil]
    rfl
  rw [cleaned, List.dropWhile_append, hfront, if_neg Bool.false_ne_true, List.filter_append]
  rfl

/-- What is read as a scheme: a letter and points of schemes behind it, of any case, with blanks in front
    and breaks of lines between them. -/
structure ReadsAsScheme (t : Text) : Prop where
  points : (cleaned t).all isSchemePoint = true
  letter : (cleaned t).head?.any CodePoint.isLetter = true

namespace ReadsAsScheme

variable {t : Text}

theorem ne_nil (h : ReadsAsScheme t) : cleaned t ≠ [] := by
  intro hnil
  have hletter := h.letter
  rw [hnil] at hletter
  exact absurd hletter Bool.false_ne_true

theorem colon_not_mem (h : ReadsAsScheme t) : CodePoint.char ':' ∉ t := by
  intro hmem
  rw [← List.takeWhile_append_dropWhile (p := fun p => decide (p.toNat ≤ 0x20)) (l := t),
    List.mem_append] at hmem
  rcases hmem with hmem | hmem
  · exact absurd (List.all_eq_true.mp List.all_takeWhile _ hmem) (by decide)
  · have hkept : CodePoint.char ':' ∈ cleaned t := List.mem_filter.mpr ⟨hmem, by decide⟩
    exact absurd (List.all_eq_true.mp h.points _ hkept) (by decide)

theorem isScheme (h : ReadsAsScheme t) : IsScheme (cleaned t).asciiLower :=
  .asciiLower h.points h.letter

theorem cutScheme?_append (h : ReadsAsScheme t) (rest : Text) :
    cutScheme? (cleaned t ++ .char ':' :: rest) = some ((cleaned t).asciiLower, rest) := by
  have hcolon : CodePoint.char ':' ∉ cleaned t := fun hmem =>
    absurd (List.all_eq_true.mp h.points _ hmem) (by decide)
  rw [cutScheme?, Text.cut_append hcolon]
  show (if ((cleaned t).all isSchemePoint && (cleaned t).head?.any CodePoint.isLetter) = true
    then _ else _) = _
  rw [h.points, h.letter]
  rfl

end ReadsAsScheme

theorem cleaned_of_isScheme {scheme : Text} (h : IsScheme scheme) : cleaned scheme = scheme := by
  have hpoint : ∀ p ∈ scheme, 0x20 < p.toNat := fun p hp =>
    toNat_of_isSchemePoint (List.all_eq_true.mp h.points p hp)
  have hdrop : scheme.dropWhile (fun p => decide (p.toNat ≤ 0x20)) = scheme := by
    apply Text.dropWhile_eq_self
    intro p hp
    have := hpoint p (List.mem_of_mem_head? hp)
    rw [decide_eq_false_iff_not]
    omega
  rw [cleaned, hdrop]
  exact filter_isUnbroken hpoint

theorem readsAsScheme_of_isScheme {scheme : Text} (h : IsScheme scheme) : ReadsAsScheme scheme := by
  constructor
  · rw [cleaned_of_isScheme h]
    exact h.points
  · rw [cleaned_of_isScheme h]
    exact h.letter

theorem cleaned_append {scheme : Text} (h : IsScheme scheme) (rest : Text) :
    cleaned (scheme ++ .char ':' :: rest) = scheme ++ .char ':' :: rest.filter isUnbroken := by
  rw [cleaned_append_of_ne_nil (readsAsScheme_of_isScheme h).ne_nil, cleaned_of_isScheme h,
    List.filter_cons_of_pos (by decide)]

theorem cutScheme?_append {scheme : Text} (h : IsScheme scheme) (rest : Text) :
    cutScheme? (scheme ++ .char ':' :: rest) = some (scheme, rest) := by
  have hcut := (readsAsScheme_of_isScheme h).cutScheme?_append rest
  rwa [cleaned_of_isScheme h, h.lower] at hcut

theorem scheme_parse {t fallback : Text} {u : LooseUrl} (h : parse t fallback = .ok u) :
    u.scheme = ((cutScheme? (cleaned t)).map Prod.fst).getD fallback := by
  unfold parse at h
  dsimp only at h
  split at h
  · exact nomatch h
  · rw [← Except.ok.inj h]
    cases cutScheme? (cleaned t) <;> rfl

theorem scheme_parse_append {scheme rest fallback : Text} {u : LooseUrl} (hs : IsScheme scheme)
    (h : parse (scheme ++ .char ':' :: rest) fallback = .ok u) : u.scheme = scheme := by
  rw [scheme_parse h, cleaned_append hs, cutScheme?_append hs]
  rfl

theorem exists_toText_eq {u : LooseUrl} (h : u.scheme ≠ []) :
    ∃ rest, u.toText = u.scheme ++ .char ':' :: rest := by
  have hne : u.scheme.isEmpty = false := by simpa using h
  rw [toText, hne]
  simp only [Bool.false_eq_true, ↓reduceIte, List.append_assoc, List.singleton_append]
  exact ⟨_, rfl⟩

/-- A reference where a document is: it is taken as it is, or it means something of that scheme. -/
theorem resolve_eq_or {scheme rest reference joined : Text} (hs : IsScheme scheme)
    (h : resolve (scheme ++ .char ':' :: rest) reference = .ok joined) :
    joined = reference ∨ ∃ rest', joined = scheme ++ .char ':' :: rest' := by
  -- whatever is written with the scheme of the base has that scheme in front
  have hwritten : ∀ u : LooseUrl, u.scheme = scheme → u.toText = joined →
      ∃ rest', joined = scheme ++ .char ':' :: rest' := by
    intro u hu hjoined
    rcases exists_toText_eq (hu ▸ hs.ne_nil) with ⟨rest', hrest'⟩
    exact ⟨rest', by rw [← hjoined, hrest', hu]⟩
  have hbase : (scheme ++ CodePoint.char ':' :: rest).isEmpty = false := by simp
  rw [resolve, hbase, if_neg (by simp)] at h
  by_cases hreference : reference.isEmpty = true
  · rw [if_pos hreference] at h
    exact .inr ⟨rest, (Except.ok.inj h).symm⟩
  · rw [if_neg hreference] at h
    rcases exists_of_bind_eq_ok h with ⟨b, hb, h⟩
    rcases exists_of_bind_eq_ok h with ⟨u, hu, h⟩
    have hbscheme := scheme_parse_append hs hb
    split at h
    · exact .inl (Except.ok.inj h).symm
    · rename_i hsame
      have huscheme : u.scheme = scheme := by
        rw [← hbscheme]
        simp only [ne_eq, Bool.or_eq_true, decide_eq_true_eq, not_or, Decidable.not_not] at hsame
        exact hsame.1
      right
      split at h
      · exact hwritten u huscheme (Except.ok.inj h)
      · split at h
        · exact hwritten { u with netloc := b.netloc, path := b.path, params := b.params, query := _ }
            huscheme (Except.ok.inj h)
        · exact hwritten { u with netloc := b.netloc, path := resolvePath b.path u.path } huscheme
            (Except.ok.inj h)

end LooseUrl

end ImageDiscovery
