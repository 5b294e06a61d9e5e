import ImageDiscovery.Proofs.Url.Plain

/-!
# Verbatim URLs — addresses that every rule leaves as they are

A server of plain points, a path of such points without dots for segments, and a query of points that may
stand there are the same before and after they are read.  So is the whole URL, and with another scheme it
differs in nothing else.
-/

namespace ImageDiscovery

namespace Url

/-- A server, a path and a query in which no rule for URLs changes anything. -/
structure IsVerbatim (server path query : Text) : Prop where
  plain : IsPlain server
  named : server ≠ []
  numeric : Address.looksNumeric server = true → Address.isIpv4 server = true
  points : ∀ p ∈ path, p = .char '/' ∨ Percent.isUnreserved p = true
  rooted : ∀ p ∈ path.head?, p = .char '/'
  segments : ∀ segment ∈ path.split (.char '/'), segment ≠ "." ∧ segment ≠ ".."
  asks : ∀ p ∈ query, Percent.inQuery p = true

/-- The URL of a path on a server, with a query. -/
def ofPath (scheme server path query : Text) : Url := ⟨scheme, [], server, none, path, some query, none⟩

variable {scheme other server path query : Text}

/-! ## Points -/

theorem not_isControl_of_isUnreserved {p : CodePoint} (h : Percent.isUnreserved p = true) :
    isControl p = false := by
  simp only [Percent.isUnreserved, CodePoint.isLetter, CodePoint.isDigit, Bool.or_eq_true,
    Bool.and_eq_true, decide_eq_true_eq] at h
  rcases h with ((((h | h) | rfl) | rfl) | rfl) | rfl
  · simp [isControl]
    omega
  · simp [isControl]
    omega
  all_goals decide

theorem not_isControl_of_printableBut {excluded : String} {p : CodePoint}
    (h : Percent.printableBut excluded p = true) : isControl p = false := by
  simp only [Percent.printableBut, Bool.and_eq_true, decide_eq_true_eq] at h
  simp [isControl]
  omega

theorem not_isControl_of_isSchemePoint {p : CodePoint} (h : isSchemePoint p = true) :
    isControl p = false := by
  simp only [isSchemePoint, CodePoint.isLetter, CodePoint.isDigit, Bool.or_eq_true, Bool.and_eq_true,
    decide_eq_true_eq] at h
  rcases h with (((h | h) | rfl) | rfl) | rfl
  · simp [isControl]
    omega
  · simp [isControl]
    omega
  all_goals decide

/-! ## Each part by itself -/

theorem checkPart_eq_none {part : Text} {fits : Text → Bool} (name : Text)
    (hlength : part.length ≤ maxLength) (hcontrol : ∀ p ∈ part, isControl p = false)
    (hfits : fits part = true) : checkPart name fits part = none := by
  rw [checkPart, if_neg (by omega), findControl_eq_none_iff.mpr hcontrol]
  exact if_pos hfits

/-- What holds none of the marks that end a part may be that part. -/
theorem without_eq_true {ends : CodePoint → Bool} {excluded : String} {t : Text}
    (hends : ∀ q ∈ Text.ofString excluded, ends q = true) (h : ∀ p ∈ t, ends p = false) :
    without excluded t = true := by
  rw [without, List.all_eq_true]
  intro p hp
  apply decide_eq_true
  intro hmem
  have hmark := hends p hmem
  rw [h p hp] at hmark
  exact Bool.false_ne_true hmark

theorem IsPlain.encodeHost_eq (h : IsPlain server) (hne : server ≠ [])
    (hnumeric : Address.looksNumeric server = true → Address.isIpv4 server = true) :
    encodeHost server = .ok server := by
  have hlower : server.asciiLower = server := Text.asciiLower_eq_self fun p hp => (h p hp).2
  have hopening : server.head? ≠ some (.char '[') := fun hhead =>
    h.not_mem (by decide) (List.mem_of_mem_head? hhead)
  unfold encodeHost
  by_cases hlooks : Address.looksNumeric server = true
  · simp [hne, hlooks, hnumeric hlooks]
  · simp only [List.isEmpty_iff, hne, hlooks, hopening, h.isAscii, hlower, h.encode_eq,
      decide_false, Bool.false_and, Bool.false_eq_true, ↓reduceIte]

/-! ## Whole URLs -/

section

variable (h : IsVerbatim server path query)

include h

theorem IsVerbatim.authority (scheme : Text) : (ofPath scheme server path query).authority = server := by
  show ([] ++ (ofPath scheme server path query).netloc) = server
  rw [netloc_eq]
  show hostText server ++ [] = server
  rw [hostText_of_not_mem (h.plain.not_mem (by decide)), List.append_nil]

theorem IsVerbatim.toText (hs : scheme ≠ []) :
    (ofPath scheme server path query).toText =
      scheme ++ .char ':' :: .char '/' :: .char '/' :: (server ++ (path ++ .char '?' :: query)) := by
  rw [Url.toText, h.authority]
  simp [ofPath, queryText, fragmentText, hs, h.named]

theorem IsVerbatim.not_isControl (hs : IsScheme scheme) :
    ∀ p ∈ (ofPath scheme server path query).toText, isControl p = false := by
  have hmark : ∀ p ∈ Text.ofString ":/?", isControl p = false := by decide
  have hpath : ∀ p ∈ path, isControl p = false := by
    intro p hp
    rcases h.points p hp with rfl | hpoint
    · decide
    · exact not_isControl_of_isUnreserved hpoint
  intro p hp
  rw [h.toText hs.ne_nil] at hp
  simp only [List.mem_append, List.mem_cons] at hp
  rcases hp with hp | rfl | rfl | rfl | hp | hp | rfl | hp
  · exact not_isControl_of_isSchemePoint (List.all_eq_true.mp hs.points p hp)
  · exact hmark _ (by decide)
  · exact hmark _ (by decide)
  · exact hmark _ (by decide)
  · exact not_isControl_of_isUnreserved (h.plain p hp).1
  · exact hpath p hp
  · exact hmark _ (by decide)
  · exact not_isControl_of_printableBut (h.asks p hp)

theorem IsVerbatim.isWritten (scheme : Text) : (ofPath scheme server path query).IsWritten := by
  constructor
  case authority =>
    rw [h.authority]
    exact not_endsServer (h.plain.not_mem (by decide)) (h.plain.not_mem (by decide))
      (h.plain.not_mem (by decide))
  case path =>
    have hmark : ∀ q, q ≠ .char '/' → Percent.isUnreserved q = false → q ∉ path := by
      intro q hslash hreserved hq
      rcases h.points q hq with hq | hq
      · exact hslash hq
      · rw [hreserved] at hq
        exact nomatch hq
    exact not_endsPath (hmark _ (by decide) (by decide)) (hmark _ (by decide) (by decide))
  case rooted => exact h.rooted
  case query =>
    intro q hq p hp
    obtain rfl := Option.some.inj hq
    rw [← Bool.not_eq_true]
    intro hsign
    obtain rfl : p = .char '#' := of_decide_eq_true hsign
    exact absurd (h.asks _ hp) (by decide)

/-- Put together from its own parts, it is the same, whatever its scheme. -/
theorem IsVerbatim.ofParts_eq (hs : IsScheme scheme) :
    ofParts (ofPath scheme server path query).parts (Authority.ofText server) =
      .ok (ofPath scheme server path query) := by
  have hpath : Percent.encode Percent.inPath path = path := by
    apply Percent.encode_eq_self
    intro p hp
    rcases h.points p hp with rfl | hpoint
    · decide
    · rw [hpoint, Bool.true_or]
  have hquery : Percent.encode Percent.inQuery query = query :=
    Percent.encode_eq_self fun p hp => by rw [h.asks p hp, Bool.or_true]
  have hrooted : ¬ (path ≠ [] ∧ path.head? ≠ some (.char '/')) := by
    intro hpath
    rcases List.exists_cons_of_ne_nil hpath.1 with ⟨p, rest, rfl⟩
    exact hpath.2 (congrArg some (h.rooted p rfl))
  have hcheck : checkPath path true true = none := by
    unfold checkPath
    simp [hrooted]
  have hscheme : scheme.isEmpty = false := by simpa using hs.ne_nil
  have hserver : server.isEmpty = false := by simpa using h.named
  unfold ofParts
  rw [h.plain.ofText_eq, h.plain.encodeHost_eq h.named h.numeric]
  simp only [parts, ofPath, bind, Except.bind, readPort, List.isEmpty_nil, if_true, hs.lower, hscheme,
    hserver, Bool.not_false, Bool.or_true, Bool.true_or, hcheck, removeDots_eq_self h.segments, hpath,
    Option.map_some, hquery, Option.map_none]
  rfl

/-- What is written of it is read again as it was. -/
theorem IsVerbatim.parse_toText (hs : IsScheme scheme)
    (hlength : (ofPath scheme server path query).toText.length ≤ maxLength) :
    parse (ofPath scheme server path query).toText = .ok (ofPath scheme server path query) := by
  have hauthority : (ofPath scheme server path query).authority ≠ [] := by
    rw [h.authority]
    exact h.named
  rw [parse_eq_ofParts hlength (h.not_isControl hs), ofText_toText hs hauthority (h.isWritten scheme)]
  have hparts : (ofPath scheme server path query).parts.authority = server := h.authority scheme
  rw [hparts, h.ofParts_eq hs]

/-- With another scheme, nothing else changes. -/
theorem IsVerbatim.withScheme_eq (scheme : Text) (ho : IsScheme other)
    (hlength : (ofPath other server path query).toText.length ≤ maxLength) :
    (ofPath scheme server path query).withScheme other = .ok (ofPath other server path query) := by
  have hcontrol := h.not_isControl ho
  have hwritten := h.isWritten other
  rw [h.toText ho.ne_nil] at hlength hcontrol
  simp only [List.length_append, List.length_cons] at hlength
  simp only [List.mem_append, List.mem_cons] at hcontrol
  have hscheme : checkPart "scheme"
      (fun t => t.all isSchemePoint && t.head?.all CodePoint.isLetter) other = none := by
    apply checkPart_eq_none
    · omega
    · exact fun p hp => hcontrol p (.inl hp)
    · have hletter : other.head?.all CodePoint.isLetter = true := by
        rcases List.exists_cons_of_ne_nil ho.ne_nil with ⟨p, rest, rfl⟩
        exact ho.letter
      rw [ho.points, hletter]
      rfl
  have hserver : checkPart "authority" (without "/?#") server = none := by
    apply checkPart_eq_none
    · omega
    · exact fun p hp => hcontrol p (by simp [hp])
    · have hserver := hwritten.authority
      rw [h.authority] at hserver
      exact without_eq_true (by decide) hserver
  have hpath : checkPart "path" (without "?#") path = none := by
    apply checkPart_eq_none
    · omega
    · exact fun p hp => hcontrol p (by simp [hp])
    · exact without_eq_true (by decide) hwritten.path
  have hquery : checkPart "query" (without "#") query = none := by
    apply checkPart_eq_none
    · omega
    · exact fun p hp => hcontrol p (by simp [hp])
    · exact without_eq_true (by decide) (hwritten.query query rfl)
  unfold withScheme assemble parts
  rw [h.authority]
  simp only [ofPath, hscheme, hserver, hpath, Option.bind_some, Option.bind_none, hquery,
    Option.map_none, Option.getD_none, List.findSome?_cons, List.findSome?_nil, id]
  exact h.ofParts_eq ho

end

end Url

end ImageDiscovery
