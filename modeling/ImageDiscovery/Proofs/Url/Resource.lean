import ImageDiscovery.Proofs.Url.Settled
import Mathlib.Control.Monad.Basic

/-!
# Resource — what a text names under another scheme

A text gets a scheme in one of two ways.  Without `://` in it, the scheme is put in front of it.  With
`://` in it, wherever that stands, the text is read as a URL, and the scheme of that URL is replaced.  So a
text without a scheme that has another URL behind its path is read as a path, and no server is in what
becomes of it.  Apart from that, a replaced scheme leaves a URL all that it names.
-/

namespace ImageDiscovery

namespace Url

variable {t s target : Text} {u v w r : Url}

/-! ## What is left of a URL -/

/-- A URL under another scheme has the same parts, but that a port which the scheme implies is left out,
    that the digits of escapes in a host may come in lower case, and that a path which stood without a
    scheme loses its dots. -/
structure KeepsResource (s : Text) (u v : Url) : Prop where
  scheme : v.scheme = s
  userinfo : v.userinfo = u.userinfo
  host : v.host = u.host ∨ .char '%' ∈ u.host ∧ v.host = u.host.asciiLower
  port : v.port = if u.port = defaultPort? s then none else u.port
  path : v.path = settledPath u.path
  path_eq : u.scheme ≠ [] → v.path = u.path
  query : v.query = u.query
  fragment : v.fragment = u.fragment

/-- Nothing of a server is written of a URL under a scheme. -/
structure IsServerless (s : Text) (u : Url) : Prop where
  userinfo : u.userinfo = []
  host : u.host = []
  port : u.port = none ∨ u.port = defaultPort? s

/-- What is read of the written parts of a URL is that URL under the scheme. -/
theorem keepsResource_of_isMade (hs : IsScheme s) (hu : u.IsSettled)
    (hv : IsMade { u.parts with scheme := s } ⟨u.userinfo, hostText u.host, portDigits u.port⟩ v) :
    KeepsResource s u v := by
  have hscheme : v.scheme = s := hv.scheme.trans hs.lower
  have hpath : v.path = settledPath u.path := by
    apply hv.path
    rw [hscheme]
    exact hs.ne_nil
  constructor
  case scheme => exact hscheme
  case userinfo => exact hv.userinfo.trans hu.userinfo
  case host => exact hu.host v.host hv.host
  case port => exact Except.ok.inj (hv.port.symm.trans (readPort_portDigits hu.port))
  case path => exact hpath
  case path_eq => exact fun hne => hpath.trans (hu.path hne)
  case query => exact hv.query.trans hu.query
  case fragment => exact hv.fragment.trans hu.fragment

/-- What keeps the resource and is read again still keeps it. -/
theorem KeepsResource.trans (hs : s ≠ []) (h : KeepsResource s u v) (h' : KeepsResource s v w) :
    KeepsResource s u w := by
  have hpath : w.path = v.path := by
    apply h'.path_eq
    rw [h.scheme]
    exact hs
  constructor
  case scheme => exact h'.scheme
  case userinfo => exact h'.userinfo.trans h.userinfo
  case host =>
    rcases h.host with heq | ⟨hpercent, heq⟩
    · rw [← heq]
      exact h'.host
    · refine .inr ⟨hpercent, ?_⟩
      rcases h'.host with heq' | ⟨-, heq'⟩
      · exact heq'.trans heq
      · rw [heq', heq, Text.asciiLower_asciiLower]
  case port =>
    rw [h'.port, h.port]
    by_cases hdefault : u.port = defaultPort? s
    · rw [if_pos hdefault, ite_self]
    · rw [if_neg hdefault, if_neg hdefault]
  case path => exact hpath.trans h.path
  case path_eq => exact fun hne => hpath.trans (h.path_eq hne)
  case query => exact h'.query.trans h.query
  case fragment => exact h'.fragment.trans h.fragment

/-! ## Servers -/

theorem not_endsServer_authority (t : Text) : ∀ p ∈ (Parts.ofText t).authority, endsServer p = false := by
  cases hcut : cutScheme t with
  | mk scheme rest =>
    by_cases hserver : BeginsServer rest
    · rcases hserver with ⟨after, rfl⟩
      rw [ofText_of_server hcut]
      exact fun p hp => (of_mem_fst_upTo hp).2
    · rw [ofText_of_path hcut hserver]
      exact nofun

/-- The authority of a URL that was read comes apart into what it was written from. -/
theorem ofText_authority_of_parse (h : parse t = .ok u) :
    Authority.ofText u.authority = ⟨u.userinfo, hostText u.host, portDigits u.port⟩ := by
  have hmarks := marks_of_encodeHost ?_ (isMade_of_parse h).host
  · exact ofText_authority (fun hat => (hmarks.1 _ hat).2 rfl) hmarks.2
  · intro p hp
    rcases of_mem_host_ofText hp with ⟨hat, hp | rfl⟩
    · exact ⟨not_endsServer_authority t p hp, hat⟩
    · exact ⟨by decide, hat⟩

/-- Without a server in a text, none is read. -/
theorem isServerless_of_parse (h : parse t = .ok u) (hserver : ¬ BeginsServer (cutScheme t).2)
    (s : Text) : IsServerless s u := by
  have hmade := isMade_of_parse h
  have hparts := ofText_of_path (show cutScheme t = ((cutScheme t).1, (cutScheme t).2) from rfl) hserver
  rw [hparts] at hmade
  exact ⟨hmade.userinfo, (Except.ok.inj hmade.host).symm, .inl (Except.ok.inj hmade.port).symm⟩

/-- A URL under a scheme is written without a server if nothing of one is left. -/
theorem KeepsResource.authority_eq_nil_iff (h : KeepsResource s u v) :
    v.authority = [] ↔ IsServerless s u := by
  constructor
  · intro hnil
    rcases of_authority_eq_nil hnil with ⟨huser, hhost, hport⟩
    refine ⟨h.userinfo.symm.trans huser, ?_, ?_⟩
    · rcases h.host with heq | ⟨-, heq⟩
      · exact heq.symm.trans hhost
      · rw [heq] at hhost
        exact List.map_eq_nil_iff.mp hhost
    · rw [h.port] at hport
      by_cases hdefault : u.port = defaultPort? s
      · exact .inr hdefault
      · rw [if_neg hdefault] at hport
        exact .inl hport
  · intro hnone
    apply authority_eq_nil (h.userinfo.trans hnone.userinfo)
    · rcases h.host with heq | ⟨-, heq⟩
      · exact heq.trans hnone.host
      · rw [heq, hnone.host]
        rfl
    · rw [h.port]
      rcases hnone.port with hport | hport
      · rw [hport, ite_self]
      · rw [if_pos hport]

/-! ## Written under another scheme -/

/-- Putting another scheme in place keeps the resource. -/
theorem keepsResource_of_withScheme (hs : IsScheme s) (hu : parse t = .ok u)
    (hw : u.withScheme s = .ok w) : KeepsResource s u w := by
  have hmade := (of_withScheme hw).2
  rw [ofText_authority_of_parse hu] at hmade
  exact keepsResource_of_isMade hs (isSettled_of_isMade (isMade_of_parse hu)) hmade

/-- What is written when nothing of a server is left. -/
theorem KeepsResource.toText_eq (hs : s ≠ []) (h : KeepsResource s u w) (hnone : IsServerless s u) :
    w.toText = s ++ .char ':' :: (settledPath u.path ++ u.queryText ++ u.fragmentText) := by
  have hauthority : w.authority = [] := h.authority_eq_nil_iff.mpr hnone
  have hquery : w.queryText = u.queryText := by rw [queryText, queryText, h.query]
  have hfragment : w.fragmentText = u.fragmentText := by
    rw [fragmentText, fragmentText, h.fragment]
  simp [toText, hauthority, h.scheme, h.path, hquery, hfragment, hs]

/-- What was written under a scheme keeps the resource when it is read, unless a path is taken for a
    server. -/
theorem keepsResource_of_parse_toText (hs : IsScheme s) (hw : v.withScheme s = .ok w)
    (hr : parse w.toText = .ok r) (hpath : w.authority = [] → ¬ BeginsServer w.path) :
    KeepsResource s w r := by
  have hmade := (of_withScheme hw).2
  have hscheme : w.scheme = s := (scheme_withScheme hw).trans hs.lower
  have hws : IsScheme w.scheme := by
    rw [hscheme]
    exact hs
  have hparts : { w.parts with scheme := s } = w.parts := by rw [parts, hscheme]
  apply keepsResource_of_isMade hs (isSettled_of_isMade hmade)
  rw [hparts]
  by_cases hauthority : w.authority = []
  · -- no server is written, so none is read
    have hread := isMade_of_parse hr
    rw [ofText_toText_of_path hws hauthority (hpath hauthority) (hmade.not_endsPath hws.ne_nil)
      hmade.not_isNumberSign] at hread
    rcases of_authority_eq_nil hauthority with ⟨huser, hhost, hport⟩
    have hnone : Authority.ofText w.parts.authority =
        ⟨w.userinfo, hostText w.host, portDigits w.port⟩ := by
      rw [huser, hhost, hport, parts, hauthority]
      rfl
    rw [hnone] at hread
    exact hread
  · exact isMade_of_parse_toText hs hw hauthority hr

/-- **The resource is kept.**  A text without `://` gets the scheme in front of it.  Any other text is
    read as a URL, and what is written of that URL under the scheme names the same, as long as no path that
    begins with two slashes is left without a server.  No server is there if the text has none of its
    own, whatever stands behind its path. -/
theorem resource_of_replaceScheme (hs : s = "https" ∨ s = "http")
    (ht : replaceScheme t s = .ok target) (hr : parse target = .ok r) :
    r.scheme = s ∧
      (Text.isWithin "://" t = false → target = s ++ "://" ++ t) ∧
      (Text.isWithin "://" t = true → ∃ u, parse t = .ok u ∧
        (¬ BeginsServer (cutScheme t).2 → IsServerless s u) ∧
        (IsServerless s u →
          target = s ++ ":" ++ (settledPath u.path ++ u.queryText ++ u.fragmentText)) ∧
        (¬ (IsServerless s u ∧ BeginsServer (settledPath u.path)) → KeepsResource s u r)) := by
  have hscheme := isScheme_of_eq hs
  refine ⟨scheme_replaceScheme hscheme ht hr, ?_, ?_⟩
  · intro hwithout
    have hurl : ¬ Text.isWithin "://" t = true := by
      rw [hwithout]
      exact Bool.false_ne_true
    rw [eq_of_replaceScheme hurl ht, List.append_assoc]
    rfl
  · intro hurl
    rcases exists_of_replaceScheme hurl ht with ⟨u, w, hu, hw, rfl⟩
    have hkept := keepsResource_of_withScheme hscheme hu hw
    refine ⟨u, hu, fun hserver => isServerless_of_parse hu hserver s, ?_, ?_⟩
    · intro hnone
      rw [hkept.toText_eq hscheme.ne_nil hnone, List.append_assoc s]
      rfl
    · intro hserver
      apply hkept.trans hscheme.ne_nil
      apply keepsResource_of_parse_toText hscheme hw hr
      intro hauthority hslashes
      rw [hkept.path] at hslashes
      exact hserver ⟨hkept.authority_eq_nil_iff.mp hauthority, hslashes⟩

/-- A URL with all its parts, and with another URL in its query. -/
def nested : Text := "http://user@Example.com:8080/a/../b?next=http://other.example/#top"

theorem resource_of_replaceScheme_nested :
    ∃ target r u, replaceScheme nested "https" = .ok target ∧ parse target = .ok r ∧
      parse nested = .ok u ∧ u.host = "example.com" ∧ KeepsResource "https" u r := by
  have ht : replaceScheme nested "https" =
      .ok "https://user@example.com:8080/b?next=http://other.example/#top" := by decide +kernel
  have hr : parse "https://user@example.com:8080/b?next=http://other.example/#top" =
      .ok ⟨"https", "user", "example.com", some 8080, "/b", some "next=http://other.example/",
        some "top"⟩ := by decide +kernel
  have hread : parse nested = .ok ⟨"http", "user", "example.com", some 8080, "/b",
      some "next=http://other.example/", some "top"⟩ := by decide +kernel
  rcases (resource_of_replaceScheme (.inl rfl) ht hr).2.2 (by decide) with ⟨u, hu, -, -, hkept⟩
  have hhost : u.host = "example.com" := by rw [Except.ok.inj (hu.symm.trans hread)]
  refine ⟨_, _, u, ht, hr, hu, hhost, hkept ?_⟩
  intro hlost
  rw [hlost.1.host] at hhost
  exact absurd hhost (by decide)

/-- A text without a scheme loses its server if another URL stands in its query: the server that it has
    with a scheme in front of it is read as a part of the path. -/
theorem exists_replaceScheme_without_server :
    ∃ (t target : Text) (r v : Url), ¬ BeginsServer (cutScheme t).2 ∧
      replaceScheme t "https" = .ok target ∧ parse target = .ok r ∧
      parse ("https" ++ "://" ++ t) = .ok v ∧ v.host = "host" ∧ r.host = [] := by
  have hserver : ¬ BeginsServer (cutScheme "host/path?next=http://other.example/").2 := by
    intro hslashes
    rcases hslashes with ⟨after, hafter⟩
    have hfirst : some (CodePoint.char 'h') = some (.char '/') := congrArg List.head? hafter
    exact absurd hfirst (by decide)
  have ht : replaceScheme "host/path?next=http://other.example/" "https" =
      .ok "https:host/path?next=http://other.example/" := by decide +kernel
  have hr : parse "https:host/path?next=http://other.example/" =
      .ok ⟨"https", [], [], none, "host/path", some "next=http://other.example/", none⟩ := by
    decide +kernel
  have hv : parse ("https" ++ "://" ++ Text.ofString "host/path?next=http://other.example/") =
      .ok ⟨"https", [], "host", none, "/path", some "next=http://other.example/", none⟩ := by
    decide +kernel
  exact ⟨_, _, _, _, hserver, ht, hr, hv, rfl, rfl⟩

end Url

end ImageDiscovery
