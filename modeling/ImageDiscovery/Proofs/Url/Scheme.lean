import ImageDiscovery.Proofs.Outcome
import ImageDiscovery.Proofs.Text.Lower
import ImageDiscovery.Proofs.Text.Split
import ImageDiscovery.Url

/-!
# Schemes — what a URL keeps of them

The scheme of a URL is the lower-case form of what it was put together from.  Written out it stands
in front of the first colon, and it is read again from there, so a scheme that was put in place of
another one is the scheme of the URL that is asked for.
-/

namespace ImageDiscovery

namespace Url

/-- What may be the scheme of a URL: a letter and points of schemes after it, in lower case. -/
structure IsScheme (t : Text) : Prop where
  points : t.all isSchemePoint = true
  letter : t.head?.any CodePoint.isLetter = true
  lower : t.asciiLower = t

theorem isScheme_https : IsScheme "https" := ⟨by decide, by decide, by decide⟩

theorem isScheme_http : IsScheme "http" := ⟨by decide, by decide, by decide⟩

theorem isScheme_of_eq {t : Text} (h : t = "https" ∨ t = "http") : IsScheme t := by
  rcases h with rfl | rfl
  · exact isScheme_https
  · exact isScheme_http

theorem isSchemePoint_asciiLower {p : CodePoint} (h : isSchemePoint p = true) :
    isSchemePoint p.asciiLower = true := by
  rcases p.asciiLower_eq_or_isLetter with hsame | hletter
  · rw [hsame]
    exact h
  · rw [isSchemePoint, hletter]
    rfl

namespace IsScheme

variable {t : Text}

theorem asciiLower (hpoints : t.all isSchemePoint = true)
    (hletter : t.head?.any CodePoint.isLetter = true) : IsScheme t.asciiLower := by
  refine ⟨?_, ?_, t.asciiLower_asciiLower⟩
  · rw [Text.asciiLower, List.all_map, List.all_eq_true]
    intro p hp
    exact isSchemePoint_asciiLower (List.all_eq_true.mp hpoints p hp)
  · cases t with
    | nil => exact absurd hletter Bool.false_ne_true
    | cons p rest => exact CodePoint.isLetter_asciiLower hletter

theorem ne_nil (h : IsScheme t) : t ≠ [] := by
  rintro rfl
  exact absurd h.letter (by decide)

theorem colon_not_mem (h : IsScheme t) : CodePoint.char ':' ∉ t := by
  intro hmem
  have := List.all_eq_true.mp h.points _ hmem
  exact absurd this (by decide)

theorem cutScheme_append (h : IsScheme t) (rest : Text) :
    cutScheme (t ++ .char ':' :: rest) = (t, rest) := by
  have hletter : t.head?.all CodePoint.isLetter = true := by
    rcases List.exists_cons_of_ne_nil h.ne_nil with ⟨p, others, rfl⟩
    exact h.letter
  rw [cutScheme, Text.cut_append h.colon_not_mem]
  show (if (t.all isSchemePoint && t.head?.all CodePoint.isLetter) = true then _ else _) = _
  rw [h.points, hletter]
  rfl

end IsScheme

/-! ## Reading and putting together -/

variable {u : Url}

theorem scheme_ofParts {parts : Parts} {authority : Authority}
    (h : ofParts parts authority = .ok u) : u.scheme = parts.scheme.asciiLower := by
  unfold ofParts at h
  rcases exists_of_bind_eq_ok h with ⟨host, -, h⟩
  rcases exists_of_bind_eq_ok h with ⟨port, -, h⟩
  dsimp only at h
  split at h
  · exact nomatch h
  · rw [← Except.ok.inj h]

theorem scheme_parse {t : Text} (h : parse t = .ok u) : u.scheme = (cutScheme t).1.asciiLower := by
  unfold parse at h
  split at h
  · exact nomatch h
  · split at h
    · exact nomatch h
    · exact scheme_ofParts h

theorem cutScheme_spec (t : Text) :
    (cutScheme t).1.all isSchemePoint = true ∧
      (cutScheme t).1.head?.all CodePoint.isLetter = true := by
  unfold cutScheme
  split
  · exact ⟨rfl, rfl⟩
  · split
    · rename_i h
      exact Bool.and_eq_true_iff.mp h
    · exact ⟨rfl, rfl⟩

theorem isScheme_of_parse {t : Text} (h : parse t = .ok u) (hne : u.scheme ≠ []) :
    IsScheme u.scheme := by
  rcases cutScheme_spec t with ⟨hpoints, hletter⟩
  rw [scheme_parse h] at hne ⊢
  apply IsScheme.asciiLower hpoints
  -- what is cut off may be empty, but the scheme of this URL is not
  cases hcut : (cutScheme t).1 with
  | nil =>
    rw [hcut] at hne
    exact absurd rfl hne
  | cons p rest =>
    rw [hcut] at hletter
    exact hletter

theorem scheme_assemble {parts : Parts} {host : Option Text} (h : assemble parts host = .ok u) :
    u.scheme = parts.scheme.asciiLower := by
  unfold assemble at h
  dsimp only at h
  split at h
  · exact nomatch h
  · exact scheme_ofParts h

theorem scheme_withScheme {v : Url} {scheme : Text} (h : v.withScheme scheme = .ok u) :
    u.scheme = scheme.asciiLower :=
  scheme_assemble h

theorem scheme_localPart {v : Url} (h : v.localPart = .ok u) : u.scheme = [] := scheme_assemble h

/-! ## Writing and reading again -/

theorem exists_toText_eq (h : u.scheme ≠ []) : ∃ rest, u.toText = u.scheme ++ .char ':' :: rest := by
  have hne : u.scheme.isEmpty = false := by simpa using h
  rw [toText, hne]
  simp only [Bool.false_eq_true, ↓reduceIte, List.append_assoc, List.singleton_append]
  exact ⟨_, rfl⟩

theorem cutScheme_toText (h : IsScheme u.scheme) : (cutScheme u.toText).1 = u.scheme := by
  rcases exists_toText_eq h.ne_nil with ⟨rest, hrest⟩
  rw [hrest, h.cutScheme_append]

/-- A scheme that takes the place of another is the scheme of what is read then. -/
theorem scheme_replaceScheme {t scheme target : Text} (hs : IsScheme scheme)
    (ht : replaceScheme t scheme = .ok target) (hu : parse target = .ok u) : u.scheme = scheme := by
  rw [scheme_parse hu]
  unfold replaceScheme at ht
  split at ht
  · -- the text is read, and written with the new scheme
    rcases exists_of_bind_eq_ok ht with ⟨v, -, ht⟩
    rcases exists_of_bind_eq_ok ht with ⟨w, hw, ht⟩
    have hws : w.scheme = scheme := (scheme_withScheme hw).trans hs.lower
    rw [← Except.ok.inj ht, cutScheme_toText (hws ▸ hs), hws, hs.lower]
  · -- the scheme is put in front
    have htarget : target = scheme ++ .char ':' :: (.char '/' :: .char '/' :: t) := by
      rw [← Except.ok.inj ht, List.append_assoc]
      rfl
    rw [htarget, hs.cutScheme_append, hs.lower]

end Url

end ImageDiscovery
