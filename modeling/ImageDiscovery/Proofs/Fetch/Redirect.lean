import ImageDiscovery.Fetch.Redirect
import ImageDiscovery.Proofs.Url.Reference

/-!
# Redirects — what the next request has of the last one

The scheme of the next request is that of the last one, unless the location names another.  Of the
headers it has none that the last one did not have, except for the host.  Cookies stay behind, and
what authorizes a request is only sent on where the origin stays or becomes the secure form of it.
-/

namespace ImageDiscovery

namespace Fetch

/-! ## Schemes -/

/-- A location says which scheme it means, once it is read and written again.  (A colon in front of it
    is not written again.) -/
def Names (location scheme : Text) : Prop :=
  ∃ url, Url.parse location = .ok url ∧ (Url.cutScheme url.toText).1.asciiLower = scheme

theorem eq_ok_of_orInvalidUrl {α : Type} {x : Except Url.Problem α} {a : α}
    (h : orInvalidUrl x = .ok a) : x = .ok a :=
  eq_ok_of_mapError_eq_ok h

variable {asked url u : Url} {location : Text}

theorem scheme_keepFragment (h : keepFragment asked url = .ok u) :
    u.scheme = url.scheme ∨ u.scheme = url.scheme.asciiLower := by
  unfold keepFragment at h
  split at h
  · split at h
    · exact .inr (Url.scheme_assemble (eq_ok_of_orInvalidUrl h))
    · rw [← Except.ok.inj h]
      exact .inl rfl
  · rw [← Except.ok.inj h]
    exact .inl rfl

/-- Written out, the URL of a location has the scheme that the location names. -/
theorem names_of_locationUrl (h : locationUrl asked location = .ok url) :
    Names location (Url.cutScheme url.toText).1.asciiLower ∧
      (url.scheme ≠ [] → Url.IsScheme url.scheme) := by
  unfold locationUrl at h
  rcases exists_of_bind_eq_ok h with ⟨v, hv, h⟩
  have hparse := eq_ok_of_mapError_eq_ok hv
  have hv : Names location (Url.cutScheme v.toText).1.asciiLower ∧
      (v.scheme ≠ [] → Url.IsScheme v.scheme) :=
    ⟨⟨v, hparse, rfl⟩, Url.isScheme_of_parse hparse⟩
  by_cases hempty : v.scheme.isEmpty = true
  · rw [if_pos hempty] at h
    rw [← Except.ok.inj h]
    exact hv
  · rw [if_neg hempty] at h
    rcases exists_of_bind_eq_ok h with ⟨host, -, h⟩
    by_cases hhost : (!host.isEmpty) = true
    · rw [if_pos hhost] at h
      rw [← Except.ok.inj h]
      exact hv
    · rw [if_neg hhost] at h
      rcases exists_of_bind_eq_ok h with ⟨askedHost, -, h⟩
      -- with another host the scheme stays, and it is read again from what is written
      have hs : Url.IsScheme v.scheme := hv.2 (by simpa using hempty)
      have hscheme : url.scheme = v.scheme :=
        (Url.scheme_assemble (eq_ok_of_orInvalidUrl h)).trans hs.lower
      have hurl : Url.IsScheme url.scheme := hscheme ▸ hs
      rw [Url.cutScheme_toText hurl, hscheme, ← Url.cutScheme_toText hs]
      exact ⟨hv.1, fun _ => (Url.cutScheme_toText hs).symm ▸ hs⟩

theorem scheme_joinedUrl (hasked : Url.IsScheme asked.scheme)
    (hurl : url.scheme ≠ [] → Url.IsScheme url.scheme) (h : joinedUrl asked url = .ok u) :
    u.scheme = asked.scheme ∨ u.scheme = (Url.cutScheme url.toText).1.asciiLower := by
  unfold joinedUrl at h
  by_cases hrelative : url.isRelative = true
  · rw [if_pos hrelative] at h
    rcases exists_of_bind_eq_ok h with ⟨joined, hjoined, h⟩
    have hresolve := eq_ok_of_mapError_eq_ok hjoined
    have hparse := eq_ok_of_orInvalidUrl h
    rcases Url.exists_toText_eq hasked.ne_nil with ⟨rest, hrest⟩
    rw [hrest] at hresolve
    rcases LooseUrl.resolve_eq_or hasked hresolve with hreference | ⟨rest', hbase⟩
    · -- nothing was joined, so the scheme is what the text begins with
      right
      rw [Url.scheme_parse hparse, hreference]
    · left
      rw [Url.scheme_parse hparse, hbase, hasked.cutScheme_append, hasked.lower]
  · rw [if_neg hrelative] at h
    have hne : url.scheme ≠ [] := by
      intro hnil
      apply hrelative
      rw [Url.isRelative, hnil]
      rfl
    right
    rw [← Except.ok.inj h, Url.cutScheme_toText (hurl hne), (hurl hne).lower]

theorem isScheme_of_redirectTarget (h : redirectTarget asked location = .ok u)
    (hne : u.scheme ≠ []) : Url.IsScheme u.scheme := by
  unfold redirectTarget at h
  rcases exists_of_bind_eq_ok h with ⟨url, hurl, h⟩
  rcases exists_of_bind_eq_ok h with ⟨joined, hjoined, h⟩
  have hs : joined.scheme ≠ [] → Url.IsScheme joined.scheme := by
    unfold joinedUrl at hjoined
    by_cases hrelative : url.isRelative = true
    · rw [if_pos hrelative] at hjoined
      rcases exists_of_bind_eq_ok hjoined with ⟨text, -, hjoined⟩
      exact Url.isScheme_of_parse (eq_ok_of_orInvalidUrl hjoined)
    · rw [if_neg hrelative] at hjoined
      rw [← Except.ok.inj hjoined]
      exact (names_of_locationUrl hurl).2
  rcases scheme_keepFragment h with hsame | hlower
  · rw [hsame] at hne ⊢
    exact hs hne
  · have hjoinedNe : joined.scheme ≠ [] := by
      intro hnil
      rw [hlower, hnil] at hne
      exact hne rfl
    rw [hlower, (hs hjoinedNe).lower]
    exact hs hjoinedNe

/-- A redirect keeps the scheme, unless its location names another. -/
theorem scheme_redirectTarget (hasked : Url.IsScheme asked.scheme)
    (h : redirectTarget asked location = .ok u) :
    u.scheme = asked.scheme ∨ Names location u.scheme := by
  unfold redirectTarget at h
  rcases exists_of_bind_eq_ok h with ⟨url, hurl, h⟩
  rcases exists_of_bind_eq_ok h with ⟨joined, hjoined, h⟩
  rcases names_of_locationUrl hurl with ⟨hnames, hs⟩
  -- a scheme is read in lower case, so putting a fragment in does not change it
  have hlower : joined.scheme.asciiLower = joined.scheme := by
    rcases scheme_joinedUrl hasked hs hjoined with hkept | hnamed
    · rw [hkept, hasked.lower]
    · rw [hnamed, Text.asciiLower_asciiLower]
  have hu : u.scheme = joined.scheme := (scheme_keepFragment h).elim id fun e => e.trans hlower
  rw [hu]
  rcases scheme_joinedUrl hasked hs hjoined with hkept | hnamed
  · exact .inl hkept
  · exact .inr (hnamed ▸ hnames)

/-! ## Headers -/

/-- Two URLs have one origin, or the second one is the secure form of the first. -/
def StaysWith (last next : Url) : Prop :=
  ∃ a b, originOf last = .ok a ∧ originOf next = .ok b ∧ (b = a ∨ isUpgrade a b = true)

theorem Headers.mem_without {headers : Headers} {name other value : Text} :
    (name, value) ∈ headers.without other ↔ (name, value) ∈ headers ∧ name ≠ other := by
  rw [Headers.without, List.mem_filter, decide_eq_true_eq]

theorem Headers.mem_set_of_ne {headers : Headers} {name other value new : Text} (h : name ≠ other)
    (hmem : (name, value) ∈ headers.set other new) : (name, value) ∈ headers := by
  rw [Headers.set, List.mem_append, List.mem_singleton, Prod.mk.injEq] at hmem
  rcases hmem with hmem | hmem
  · exact (Headers.mem_without.mp hmem).1
  · exact absurd hmem.1 h

/-- Except for the host, a redirected request has no header that the last one did not have. -/
theorem mem_headers_of_redirected {request next : Request} {name value : Text}
    (h : request.redirected location = .ok next) (hmem : (name, value) ∈ next.headers)
    (hname : name ≠ host) :
    (name, value) ∈ request.headers ∧ name ≠ cookie ∧
      (name = authorization → StaysWith request.url next.url) := by
  unfold Request.redirected at h
  rcases exists_of_bind_eq_ok h with ⟨url, -, h⟩
  rcases exists_of_bind_eq_ok h with ⟨headers, hheaders, h⟩
  rw [← Except.ok.inj h] at hmem ⊢
  unfold redirectHeaders at hheaders
  rcases exists_of_bind_eq_ok hheaders with ⟨b, hb, hheaders⟩
  rcases exists_of_bind_eq_ok hheaders with ⟨a, ha, hheaders⟩
  have hstays : b = a ∨ isUpgrade a b = true → StaysWith request.url url := fun hab =>
    ⟨a, b, eq_ok_of_mapError_eq_ok ha, eq_ok_of_mapError_eq_ok hb, hab⟩
  dsimp only at hheaders
  split at hheaders
  · -- one origin: cookies go, the rest stays
    rename_i hsame
    rw [← Except.ok.inj hheaders] at hmem
    rcases Headers.mem_without.mp hmem with ⟨hkept, hcookie⟩
    exact ⟨hkept, hcookie, fun _ => hstays (.inl hsame)⟩
  · split at hheaders
    · exact nomatch hheaders
    · rw [← Except.ok.inj hheaders] at hmem
      rcases Headers.mem_without.mp hmem with ⟨hset, hcookie⟩
      have hkept := Headers.mem_set_of_ne hname hset
      -- another origin: what authorizes goes too, unless that is the secure form
      by_cases hupgrade : isUpgrade a b = true
      · rw [if_pos hupgrade] at hkept
        exact ⟨hkept, hcookie, fun _ => hstays (.inr hupgrade)⟩
      · rw [if_neg hupgrade] at hkept
        rcases Headers.mem_without.mp hkept with ⟨hkept, hauthorization⟩
        exact ⟨hkept, hcookie, fun e => absurd e hauthorization⟩

end Fetch

end ImageDiscovery
