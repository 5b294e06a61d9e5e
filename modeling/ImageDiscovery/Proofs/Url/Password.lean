import ImageDiscovery.Proofs.Url.Replaced

/-!
# Passwords — URLs that differ in nothing else

Two URLs may differ in nothing but a password.  They still do when their schemes are replaced, and when
they are written and read again.
-/

namespace ImageDiscovery

namespace Url

/-! ## User information -/

/-- A point that user information holds as it is. -/
def isUserPoint (p : CodePoint) : Bool := Percent.isUnreserved p || Percent.inUserinfo p

def HasUserPoints (t : Text) : Prop := ∀ p ∈ t, isUserPoint p = true

namespace HasUserPoints

variable {t : Text}

theorem encode (t : Text) : HasUserPoints (Percent.encode Percent.inUserinfo t) := by
  intro p hp
  rw [isUserPoint, Bool.or_eq_true]
  obtain rfl | hp := Percent.of_mem_encode hp
  · exact .inr (by decide)
  · exact hp

theorem encode_eq (h : HasUserPoints t) : Percent.encode Percent.inUserinfo t = t :=
  Percent.encode_eq_self h

theorem not_mem (h : HasUserPoints t) {p : CodePoint} (hp : isUserPoint p = false) : p ∉ t := by
  intro hmem
  rw [h p hmem] at hp
  exact nomatch hp

theorem not_endsServer (h : HasUserPoints t) : ∀ p ∈ t, endsServer p = false :=
  Url.not_endsServer (h.not_mem (by decide)) (h.not_mem (by decide)) (h.not_mem (by decide))

end HasUserPoints

theorem IsMade.hasUserPoints {parts : Parts} {authority : Authority} {u : Url}
    (h : IsMade parts authority u) : HasUserPoints u.userinfo := by
  rw [h.userinfo]
  exact .encode _

/-- Behind user information there may be another mark like the one that ends it.  Then it is longer,
    whatever it is. -/
theorem exists_cutLast_user (rest : Text) :
    ∃ more place, ∀ user, cutLast (.char '@') (user ++ .char '@' :: rest) = (user ++ more, place) := by
  cases hcut : cutLast (.char '@') rest with
  | mk before after =>
    obtain ⟨hat, ⟨hrest, -⟩ | hrest⟩ := eq_of_cutLast hcut
    · refine ⟨[], after, fun user => ?_⟩
      rw [hrest, cutLast_append hat, List.append_nil]
    · refine ⟨.char '@' :: before, after, fun user => ?_⟩
      have hsplit : user ++ .char '@' :: rest = (user ++ .char '@' :: before) ++ .char '@' :: after := by
        rw [hrest, List.append_assoc]
        rfl
      rw [hsplit, cutLast_append hat]

theorem exists_ofText_user (rest : Text) :
    ∃ more host port, ∀ user,
      Authority.ofText (user ++ .char '@' :: rest) = ⟨user ++ more, host, port⟩ := by
  obtain ⟨more, place, hcut⟩ := exists_cutLast_user rest
  refine ⟨more, (Authority.ofText place).host, (Authority.ofText place).port, fun user => ?_⟩
  have hplace : cutLast (.char '@') place = ([], place) := by
    apply cutLast_of_not_mem
    exact (eq_of_cutLast (hcut [])).1
  unfold Authority.ofText
  rw [hcut, hplace]

/-! ## URLs alike -/

/-- Two URLs with passwords for one user that are the same in all else. -/
structure SameButPassword (user : Text) (u v : Url) : Prop where
  scheme : u.scheme = v.scheme
  host : u.host = v.host
  port : u.port = v.port
  path : u.path = v.path
  query : u.query = v.query
  fragment : u.fragment = v.fragment
  colon : CodePoint.char ':' ∉ user
  passwords : ∃ p q, p ≠ [] ∧ q ≠ [] ∧ u.userinfo = user ++ .char ':' :: p ∧
    v.userinfo = user ++ .char ':' :: q

namespace SameButPassword

variable {user s target₁ target₂ t₁ t₂ : Text} {v₁ v₂ w₁ w₂ u₁ u₂ : Url}

theorem netloc (h : SameButPassword user v₁ v₂) : v₁.netloc = v₂.netloc := by
  rw [netloc_eq, netloc_eq, h.host, h.port]

theorem authority_left (h : SameButPassword user v₁ v₂) :
    v₁.authority = v₁.userinfo ++ .char '@' :: v₁.netloc := by
  obtain ⟨p, q, -, -, hp, -⟩ := h.passwords
  have hempty : v₁.userinfo.isEmpty = false := by simp [hp]
  rw [authority, hempty, if_neg (by simp), List.append_assoc]
  rfl

theorem symm (h : SameButPassword user v₁ v₂) : SameButPassword user v₂ v₁ := by
  obtain ⟨p, q, hp, hq, hv₁, hv₂⟩ := h.passwords
  exact ⟨h.scheme.symm, h.host.symm, h.port.symm, h.path.symm, h.query.symm, h.fragment.symm, h.colon,
    q, p, hq, hp, hv₂, hv₁⟩

theorem of_isMade {parts₁ parts₂ : Parts} {authority₁ authority₂ : Authority}
    (h₁ : IsMade parts₁ authority₁ w₁) (h₂ : IsMade parts₂ authority₂ w₂)
    (hscheme : parts₁.scheme = parts₂.scheme) (hne : w₁.scheme ≠ [])
    (hhost : authority₁.host = authority₂.host) (hport : authority₁.port = authority₂.port)
    (hpath : parts₁.path = parts₂.path) (hquery : parts₁.query = parts₂.query)
    (hfragment : parts₁.fragment = parts₂.fragment) (hcolon : CodePoint.char ':' ∉ user)
    (hpasswords : ∃ p q, p ≠ [] ∧ q ≠ [] ∧ w₁.userinfo = user ++ .char ':' :: p ∧
      w₂.userinfo = user ++ .char ':' :: q) : SameButPassword user w₁ w₂ := by
  have hschemes : w₁.scheme = w₂.scheme := by rw [h₁.scheme, h₂.scheme, hscheme]
  constructor
  case scheme => exact hschemes
  case host =>
    have hhosts := h₁.host
    rw [hhost] at hhosts
    exact Except.ok.inj (hhosts.symm.trans h₂.host)
  case port =>
    have hports := h₁.port
    rw [hscheme, hport] at hports
    exact Except.ok.inj (hports.symm.trans h₂.port)
  case path => rw [h₁.path hne, h₂.path (hschemes ▸ hne), hpath]
  case query => rw [h₁.query, h₂.query, hquery]
  case fragment => rw [h₁.fragment, h₂.fragment, hfragment]
  case colon => exact hcolon
  case passwords => exact hpasswords

theorem withScheme (h : SameButPassword user v₁ v₂) (hs : IsScheme s)
    (hclear₁ : HasUserPoints v₁.userinfo) (hclear₂ : HasUserPoints v₂.userinfo)
    (hw₁ : v₁.withScheme s = .ok w₁) (hw₂ : v₂.withScheme s = .ok w₂) :
    SameButPassword user w₁ w₂ := by
  obtain ⟨p, q, hp, hq, hv₁, hv₂⟩ := h.passwords
  have hmade₁ := (of_withScheme hw₁).2
  have hmade₂ := (of_withScheme hw₂).2
  rw [h.authority_left] at hmade₁
  rw [h.symm.authority_left, ← h.netloc] at hmade₂
  obtain ⟨more, host, port, hcut⟩ := exists_ofText_user v₁.netloc
  rw [hcut] at hmade₁ hmade₂
  have hne : w₁.scheme ≠ [] := by
    rw [scheme_withScheme hw₁, hs.lower]
    exact hs.ne_nil
  -- what may follow the password is encoded, and the same on both sides
  have hencode : ∀ userinfo, HasUserPoints userinfo →
      Percent.encode Percent.inUserinfo (userinfo ++ more) =
        userinfo ++ Percent.encode Percent.inUserinfo more := by
    intro userinfo hclear
    rw [Percent.encode, List.flatMap_append]
    exact congrArg (· ++ _) hclear.encode_eq
  have hw₁ : w₁.userinfo = user ++ .char ':' :: (p ++ Percent.encode Percent.inUserinfo more) := by
    rw [hmade₁.userinfo, hencode _ hclear₁, hv₁, List.append_assoc, List.cons_append]
  have hw₂ : w₂.userinfo = user ++ .char ':' :: (q ++ Percent.encode Percent.inUserinfo more) := by
    rw [hmade₂.userinfo, hencode _ hclear₂, hv₂, List.append_assoc, List.cons_append]
  exact of_isMade hmade₁ hmade₂ rfl hne rfl rfl h.path h.query h.fragment h.colon
    ⟨_, _, List.append_ne_nil_of_left_ne_nil hp _, List.append_ne_nil_of_left_ne_nil hq _, hw₁, hw₂⟩

theorem authority_ne_nil (h : SameButPassword user v₁ v₂) : v₁.authority ≠ [] := by
  rw [h.authority_left]
  exact List.append_ne_nil_of_right_ne_nil _ (List.cons_ne_nil _ _)

/-- What is written of such URLs is read as such URLs. -/
theorem of_parse_toText (h : SameButPassword user w₁ w₂) (hs : IsScheme s)
    (hw₁ : v₁.withScheme s = .ok w₁) (hw₂ : v₂.withScheme s = .ok w₂)
    (hu₁ : parse w₁.toText = .ok u₁) (hu₂ : parse w₂.toText = .ok u₂) :
    SameButPassword user u₁ u₂ := by
  obtain ⟨p, q, hp, hq, huser₁, huser₂⟩ := h.passwords
  have hmade₁ := isMade_of_parse_toText hs hw₁ h.authority_ne_nil hu₁
  have hmade₂ := isMade_of_parse_toText hs hw₂ h.symm.authority_ne_nil hu₂
  have hne : u₁.scheme ≠ [] := by
    rw [hmade₁.scheme]
    show w₁.scheme.asciiLower ≠ []
    rw [scheme_withScheme hw₁, hs.lower, hs.lower]
    exact hs.ne_nil
  -- user information that was written once is written again as it is
  have hwritten₁ := hmade₁.userinfo
  have hwritten₂ := hmade₂.userinfo
  rw [(of_withScheme hw₁).2.hasUserPoints.encode_eq, huser₁] at hwritten₁
  rw [(of_withScheme hw₂).2.hasUserPoints.encode_eq, huser₂] at hwritten₂
  exact of_isMade hmade₁ hmade₂ h.scheme hne (congrArg hostText h.host) (congrArg portDigits h.port)
    h.path h.query h.fragment h.colon ⟨p, q, hp, hq, hwritten₁, hwritten₂⟩

end SameButPassword

end Url

end ImageDiscovery
