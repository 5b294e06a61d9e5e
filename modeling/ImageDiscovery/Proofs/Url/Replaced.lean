import ImageDiscovery.Proofs.Url.Written

/-!
# Replaced schemes — one place under two schemes

A text that names a document is asked for under one scheme and then under another.  Whatever the schemes
are, the host, the path and the query are the same, as long as there is a host under both: what stands
behind the scheme is either the same text, or a server written by the same rules.
-/

namespace ImageDiscovery

namespace Url

variable {t scheme : Text} {u v w : Url}

/-! ## With another scheme -/

theorem fits_of_checkPart {name part : Text} {fits : Text → Bool}
    (h : checkPart name fits part = none) : fits part = true := by
  unfold checkPart at h
  split at h
  · exact nomatch h
  · split at h
    · exact nomatch h
    · split at h
      · assumption
      · exact nomatch h

theorem of_withScheme (h : v.withScheme scheme = .ok w) :
    (∀ p ∈ v.authority, endsServer p = false) ∧
      IsMade { v.parts with scheme } (Authority.ofText v.authority) w := by
  unfold withScheme assemble at h
  dsimp only at h
  split at h
  · exact nomatch h
  · rename_i hproblems
    rw [List.findSome?_eq_none_iff] at hproblems
    have hserver : checkPart "authority" (without "/?#") v.authority = none :=
      hproblems _ (.tail _ (.head _))
    refine ⟨?_, isMade_of_ofParts h⟩
    intro p hp
    have hmarks := of_decide_eq_true (List.all_eq_true.mp (fits_of_checkPart hserver) p hp)
    rw [← Bool.not_eq_true]
    intro hends
    apply hmarks
    rcases eq_of_endsServer hends with rfl | rfl | rfl
    all_goals decide

/-- A host holds no marks around hosts, if what it is read from holds none. -/
theorem marks_of_encodeHost {written host : Text}
    (hwritten : ∀ p ∈ written, endsServer p = false ∧ p ≠ .char '@')
    (h : encodeHost written = .ok host) :
    (∀ p ∈ host, endsServer p = false ∧ p ≠ .char '@') ∧
      (CodePoint.char ':' ∈ host ∨ CodePoint.char '[' ∉ host) := by
  have hplain : IsPlain host → (∀ p ∈ host, endsServer p = false ∧ p ≠ .char '@') ∧
      (CodePoint.char ':' ∈ host ∨ CodePoint.char '[' ∉ host) := by
    intro hplain
    have hends := not_endsServer (hplain.not_mem (by decide)) (hplain.not_mem (by decide))
      (hplain.not_mem (by decide))
    refine ⟨fun p hp => ⟨hends p hp, ?_⟩, .inr (hplain.not_mem (by decide))⟩
    intro hat
    exact hplain.not_mem (by decide) (hat ▸ hp)
  cases hostForm_of_encodeHost h with
  | empty _ heq =>
    rw [heq]
    exact ⟨nofun, .inr nofun⟩
  | ipv4 h heq =>
    apply hplain
    rw [heq]
    exact isPlain_of_isIpv4 h
  | ipv6 h heq =>
    refine ⟨?_, .inl (Address.colon_mem_of_isIpv6 h)⟩
    intro p hp
    apply hwritten
    rw [heq]
    exact .tail _ (List.mem_append_left _ hp)
  | ascii _ heq =>
    rw [heq]
    have hends : ∀ p ∈ Percent.encode Percent.inHost written.asciiLower, endsServer p = false :=
      not_endsServer (Percent.not_mem_encode (by decide) _) (Percent.not_mem_encode (by decide) _)
        (Percent.not_mem_encode (by decide) _)
    refine ⟨fun p hp => ⟨hends p hp, ?_⟩, .inr (Percent.not_mem_encode (by decide) _)⟩
    intro hat
    exact Percent.not_mem_encode (by decide) _ (hat ▸ hp)
  | idna _ _ heq => exact hplain (isPlain_toAscii heq)

/-- Read and put together again, a host holds no marks around hosts. -/
theorem host_of_withScheme (hw : v.withScheme scheme = .ok w) :
    (∀ p ∈ w.host, endsServer p = false ∧ p ≠ .char '@') ∧
      (CodePoint.char ':' ∈ w.host ∨ CodePoint.char '[' ∉ w.host) := by
  rcases of_withScheme hw with ⟨hserver, hmade⟩
  apply marks_of_encodeHost _ hmade.host
  intro p hp
  rcases of_mem_host_ofText hp with ⟨hat, hp | rfl⟩
  · exact ⟨hserver p hp, hat⟩
  · exact ⟨by decide, hat⟩

/-- What is written of a URL with a server is read as it was put together. -/
theorem isMade_of_parse_toText (hs : IsScheme scheme) (hw : v.withScheme scheme = .ok w)
    (hauthority : w.authority ≠ []) (hu : parse w.toText = .ok u) :
    IsMade w.parts ⟨w.userinfo, hostText w.host, portDigits w.port⟩ u := by
  have hscheme : w.scheme = scheme := (scheme_withScheme hw).trans hs.lower
  have hws : IsScheme w.scheme := by
    rw [hscheme]
    exact hs
  rcases host_of_withScheme hw with ⟨hmarks, hbracket⟩
  have hwritten := isWritten_of_isMade (of_withScheme hw).2 hws.ne_nil hauthority
    fun p hp => (hmarks p hp).1
  have hat : CodePoint.char '@' ∉ w.host := fun hmem => (hmarks _ hmem).2 rfl
  have hmade := isMade_of_parse hu
  rw [ofText_toText hws hauthority hwritten] at hmade
  have hsplit : Authority.ofText w.parts.authority = _ := ofText_authority hat hbracket
  rw [hsplit] at hmade
  exact hmade

/-! ## Two schemes -/

/-- Two URLs name one document of a host, under whatever scheme and on whatever port. -/
structure SamePlace (u v : Url) : Prop where
  host : u.host = v.host
  path : u.path = v.path
  query : u.query = v.query

variable {s s' : Text} {u' : Url}

theorem samePlace_of_isMade {parts parts' : Parts} {authority authority' : Authority}
    (h : IsMade parts authority u) (h' : IsMade parts' authority' u') (hs : u.scheme ≠ [])
    (hs' : u'.scheme ≠ []) (hhost : authority.host = authority'.host)
    (hpath : parts.path = parts'.path) (hquery : parts.query = parts'.query) : SamePlace u u' := by
  constructor
  · have hhost' := h'.host
    rw [← hhost] at hhost'
    exact Except.ok.inj (h.host.symm.trans hhost')
  · rw [h.path hs, h'.path hs', hpath]
  · rw [h.query, h'.query, hquery]

theorem scheme_ne_nil_of_parse (hs : IsScheme s) {rest : Text}
    (hu : parse (s ++ .char ':' :: rest) = .ok u) : u.scheme ≠ [] := by
  rw [scheme_parse hu, hs.cutScheme_append, hs.lower]
  exact hs.ne_nil

/-- Behind the scheme both texts are the same, and so is what is read there. -/
theorem samePlace_of_parse_append (hs : IsScheme s) (hs' : IsScheme s') {rest : Text}
    (hu : parse (s ++ .char ':' :: rest) = .ok u) (hu' : parse (s' ++ .char ':' :: rest) = .ok u') :
    SamePlace u u' := by
  have hparts : Parts.ofText (s ++ .char ':' :: rest) =
      { Parts.ofText (s' ++ .char ':' :: rest) with scheme := s } := by
    rw [Parts.ofText, Parts.ofText, hs.cutScheme_append, hs'.cutScheme_append]
  have hmade := isMade_of_parse hu
  rw [hparts] at hmade
  exact samePlace_of_isMade hmade (isMade_of_parse hu') (scheme_ne_nil_of_parse hs hu)
    (scheme_ne_nil_of_parse hs' hu') rfl rfl rfl

theorem exists_of_replaceScheme {target : Text} (hurl : Text.isWithin "://" t = true)
    (h : replaceScheme t scheme = .ok target) :
    ∃ v w, parse t = .ok v ∧ v.withScheme scheme = .ok w ∧ target = w.toText := by
  rw [replaceScheme, if_pos hurl] at h
  rcases exists_of_bind_eq_ok h with ⟨v, hv, h⟩
  rcases exists_of_bind_eq_ok h with ⟨w, hw, h⟩
  exact ⟨v, w, hv, hw, (Except.ok.inj h).symm⟩

theorem eq_of_replaceScheme {target : Text} (hurl : ¬ Text.isWithin "://" t = true)
    (h : replaceScheme t scheme = .ok target) :
    target = scheme ++ .char ':' :: .char '/' :: .char '/' :: t := by
  rw [replaceScheme, if_neg hurl] at h
  rw [← Except.ok.inj h, List.append_assoc]
  rfl

/-- A server without a host would have no host when it is read again. -/
theorem toText_of_host_eq_nil (hs : IsScheme scheme) (hw : v.withScheme scheme = .ok w)
    (hu : parse w.toText = .ok u) (hhost : u.host ≠ []) (hnone : w.host = []) :
    w.toText = scheme ++ .char ':' :: (w.path ++ w.queryText ++ w.fragmentText) := by
  have hscheme : w.scheme = scheme := (scheme_withScheme hw).trans hs.lower
  have hauthority : w.authority = [] := by
    apply Decidable.byContradiction
    intro hauthority
    have hread := (isMade_of_parse_toText hs hw hauthority hu).host
    rw [hnone] at hread
    exact hhost (Except.ok.inj hread).symm
  simp [toText, hscheme, hauthority, hs.ne_nil]

/-- **One place under two schemes.**  If a text has a host under both schemes, both name the same host,
    path and query. -/
theorem samePlace_of_replaceScheme {target target' : Text} (hs : IsScheme s) (hs' : IsScheme s')
    (ht : replaceScheme t s = .ok target) (hu : parse target = .ok u)
    (ht' : replaceScheme t s' = .ok target') (hu' : parse target' = .ok u') (hhost : u.host ≠ [])
    (hhost' : u'.host ≠ []) : SamePlace u u' := by
  by_cases hurl : Text.isWithin "://" t = true
  · rcases exists_of_replaceScheme hurl ht with ⟨v, w, hv, hw, rfl⟩
    rcases exists_of_replaceScheme hurl ht' with ⟨v', w', hv', hw', rfl⟩
    rw [Except.ok.inj (hv'.symm.trans hv)] at hw'
    have hmade := (of_withScheme hw).2
    have hmade' := (of_withScheme hw').2
    have hws : w.scheme ≠ [] := by
      rw [scheme_withScheme hw, hs.lower]
      exact hs.ne_nil
    have hws' : w'.scheme ≠ [] := by
      rw [scheme_withScheme hw', hs'.lower]
      exact hs'.ne_nil
    have hsame : SamePlace w w' := samePlace_of_isMade hmade hmade' hws hws' rfl rfl rfl
    by_cases hnone : w.host = []
    · -- nothing but the path and what follows it stands behind the schemes
      have hnone' : w'.host = [] := hsame.host ▸ hnone
      have hrest : w'.path ++ w'.queryText ++ w'.fragmentText =
          w.path ++ w.queryText ++ w.fragmentText := by
        have hfragments : w.fragment = w'.fragment := by rw [hmade.fragment, hmade'.fragment]
        simp only [queryText, fragmentText, hsame.path, hsame.query, hfragments]
      rw [toText_of_host_eq_nil hs hw hu hhost hnone] at hu
      rw [toText_of_host_eq_nil hs' hw' hu' hhost' hnone', hrest] at hu'
      exact samePlace_of_parse_append hs hs' hu hu'
    · -- a server is written, and read again in the same way
      have hnone' : w'.host ≠ [] := hsame.host ▸ hnone
      have hread := isMade_of_parse_toText hs hw (authority_ne_nil hnone) hu
      have hread' := isMade_of_parse_toText hs' hw' (authority_ne_nil hnone') hu'
      have hus : u.scheme ≠ [] := by
        rw [hread.scheme]
        simpa [parts, Text.asciiLower] using hws
      have hus' : u'.scheme ≠ [] := by
        rw [hread'.scheme]
        simpa [parts, Text.asciiLower] using hws'
      exact samePlace_of_isMade hread hread' hus hus' (congrArg hostText hsame.host) hsame.path
        hsame.query
  · rw [eq_of_replaceScheme hurl ht] at hu
    rw [eq_of_replaceScheme hurl ht'] at hu'
    exact samePlace_of_parse_append hs hs' hu hu'

end Url

end ImageDiscovery
