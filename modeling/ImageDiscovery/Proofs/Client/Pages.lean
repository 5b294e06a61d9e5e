import ImageDiscovery.Proofs.Client.Policy
import ImageDiscovery.Proofs.Identifier

/-!
# Pages — the URLs of discovery pages

The page of a namespace is on the server that the first part of the namespace names.  Names of apps are
made of points that may stand everywhere in a URL, so that server is asked for by this very name, and
it can always be named in headers.
-/

namespace ImageDiscovery

open Fetch

/-! ## Names of servers -/

namespace Identifier

/-- A point that is no slash, and not at the end of a line. -/
theorem isPlain_of_isPoint {p : CodePoint} (h : isPoint p = true) (hslash : p ≠ .char '/')
    (hcontrol : Url.isControl p = false) :
    Percent.isUnreserved p = true ∧ p.asciiLower = p := by
  simp only [isPoint, Bool.or_eq_true, decide_eq_true_eq] at h
  rcases h with (hword | hseparator) | rfl
  · simp only [isWordPoint, CodePoint.isDigit, Bool.or_eq_true, Bool.and_eq_true,
      decide_eq_true_eq] at hword
    constructor
    · simp only [Percent.isUnreserved, CodePoint.isLetter, CodePoint.isDigit, Bool.or_eq_true,
        Bool.and_eq_true, decide_eq_true_eq]
      omega
    · exact CodePoint.asciiLower_of_not_upper (by omega)
  · simp only [isSeparator, Bool.or_eq_true, decide_eq_true_eq] at hseparator
    rcases hseparator with hmark | rfl
    · rcases hmark with ((rfl | rfl) | rfl) | rfl
      all_goals decide
    · exact absurd rfl hslash
  · exact absurd hcontrol (by decide)

end Identifier

namespace App

variable {app : App} {place : Text}

/-- A name begins with a run, so no namespace is empty. -/
theorem exists_of_mem_namespaces (h : place ∈ app.namespaces) :
    ∃ p rest, place = p :: rest ∧ Identifier.isWordPoint p = true := by
  have haccepts := isIdentifier_of_checkIdentifier app.name_ok
  have hfirst : ∀ p rest, isIdentifier (p :: rest) = true → Identifier.isWordPoint p = true := by
    intro p rest h
    rw [isIdentifier, Identifier.accepts] at h
    by_cases hword : Identifier.isWordPoint p = true
    · exact hword
    · rw [if_neg hword] at h
      simp at h
  cases place with
  | nil =>
    rcases eq_or_isPrefix_of_mem_namespaces h with hname | ⟨more, hname⟩
    · rw [← hname] at haccepts
      exact absurd haccepts (by decide)
    · rw [← hname] at haccepts
      exact absurd (hfirst _ _ haccepts) (by decide)
  | cons p rest =>
    rcases isPrefix_of_mem_namespaces h with ⟨more, hname⟩
    rw [← hname] at haccepts
    exact ⟨p, rest, rfl, hfirst _ _ haccepts⟩

/-- What stands before the first slash of a name; it is the server of all its namespaces. -/
def server (app : App) : Text := (Url.upTo Url.isSlash app.name).1

theorem server_of_mem_namespaces (h : place ∈ app.namespaces) :
    (Url.upTo Url.isSlash place).1 = app.server := by
  rcases eq_or_isPrefix_of_mem_namespaces h with rfl | ⟨more, hname⟩
  · rfl
  · -- at the latest, the server ends at the slash that is behind the namespace
    have hpass : ∀ p ∈ (Url.upTo Url.isSlash place).1, Url.isSlash p = false :=
      fun p hp => (Url.of_mem_fst_upTo hp).2
    have hstop : ∀ p ∈ ((Url.upTo Url.isSlash place).2 ++ (.char '/' :: more)).head?,
        Url.isSlash p = true := by
      intro p hp
      rw [List.head?_append, Option.mem_def, Option.or_eq_some_iff] at hp
      rcases hp with hp | ⟨-, hp⟩
      · exact Url.of_head?_snd_upTo p hp
      · rw [← Option.some.inj hp]
        rfl
    have hcut := Url.upTo_append hpass hstop
    rw [← List.append_assoc, Url.fst_append_snd_upTo] at hcut
    rw [server, ← hname, List.append_assoc, List.singleton_append, hcut]

/-- Two separators do not stand together, so no name begins with the mark of an encoded label. -/
theorem not_isPrefixOf_mark {server : Text} (h : server <+: app.name) :
    Idna.mark.isPrefixOf server = false := by
  rw [← Bool.not_eq_true, List.isPrefixOf_iff_prefix]
  intro hmark
  rcases hmark.trans h with ⟨more, hname⟩
  have haccepts := isIdentifier_of_checkIdentifier app.name_ok
  rw [← hname] at haccepts
  exact absurd haccepts Bool.false_ne_true

end App

namespace Url

variable {server rest scheme : Text} {t target : Text} {u : Url}

/-- A plain server is asked for by its name and on no port of its own, whatever scheme it is asked for
    under. -/
theorem IsPlain.host_of_asked (h : IsPlain server) (hne : server ≠ []) (hs : IsScheme scheme)
    (hserver : (Parts.ofText t).authority = server) (hurl : Text.isWithin "://" t = true)
    (hu : Asked t scheme target u) : u.host = server ∧ u.port = none := by
  rcases exists_of_replaceScheme hurl hu.replaced with ⟨v, w, hv, hw, rfl⟩
  -- the server is read, put behind the other scheme, and read again
  have hmade := isMade_of_parse hv
  rw [hserver, h.ofText_eq] at hmade
  have hhost : v.host = server := h.host_eq hmade.host
  have hport : v.port = none := (Except.ok.inj hmade.port).symm
  have hcolon : CodePoint.char ':' ∉ server := h.not_mem (by decide)
  have hauthority : v.authority = server := by
    rw [authority, netloc_eq, hmade.userinfo, hhost, hport, hostText_of_not_mem hcolon]
    exact List.append_nil _
  have hmade' := (of_withScheme hw).2
  rw [hauthority, h.ofText_eq] at hmade'
  have hhost' : w.host = server := h.host_eq hmade'.host
  have hport' : w.port = none := (Except.ok.inj hmade'.port).symm
  have hread := isMade_of_parse_toText hs hw (authority_ne_nil (hhost' ▸ hne)) hu.parsed
  rw [hhost', hport', hostText_of_not_mem hcolon] at hread
  exact ⟨h.host_eq hread.host, (Except.ok.inj hread.port).symm⟩

end Url

namespace Client

variable {app : App} {place scheme target : Text} {u : Url}

/-- A namespace is its server, and a rest from the first slash on. -/
theorem exists_server (h : place ∈ app.namespaces) :
    ∃ rest, place = app.server ++ rest ∧ app.server ≠ [] ∧ CodePoint.char '/' ∉ app.server ∧
      ∀ p ∈ rest.head?, p = .char '/' := by
  rw [← App.server_of_mem_namespaces h]
  have hslash : CodePoint.char '/' ∉ (Url.upTo Url.isSlash place).1 := fun hmem =>
    absurd (Url.of_mem_fst_upTo hmem).2 (by decide)
  refine ⟨(Url.upTo Url.isSlash place).2, (Url.fst_append_snd_upTo _ _).symm, ?_, hslash, ?_⟩
  · rcases App.exists_of_mem_namespaces h with ⟨p, rest, rfl, hword⟩
    have hp : Url.isSlash p = false := by
      apply decide_eq_false
      rintro rfl
      exact absurd hword (by decide)
    simp [Url.upTo, hp]
  · intro p hp
    exact of_decide_eq_true (Url.of_head?_snd_upTo p hp)

theorem isWithin_discoveryUrl (place scheme : Text) :
    Text.isWithin "://" (discoveryUrl place scheme) = true := by
  rw [discoveryUrl, List.append_assoc]
  exact Text.isWithin_append "://" scheme _

/-- A discovery page that can be read is on a server of plain points. -/
theorem server_of_parse_discoveryUrl (h : place ∈ app.namespaces)
    (hu : Url.parse (discoveryUrl place "https") = .ok u) :
    Url.IsPlain app.server ∧
      (Url.Parts.ofText (discoveryUrl place "https")).authority = app.server := by
  rcases exists_server h with ⟨rest, hplace, hne, hslash, hrest⟩
  rcases App.isPrefix_of_mem_namespaces h with ⟨more, hname⟩
  have htext : discoveryUrl place "https" = Text.ofString "https" ++ .char ':' :: .char '/' ::
      .char '/' :: (app.server ++ (rest ++ .char '?' :: discoveryQuery)) := by
    rw [discoveryUrl, hplace]
    simp only [List.append_assoc]
    rfl
  have hpoint : ∀ p ∈ app.server, Identifier.isPoint p = true := by
    intro p hp
    apply app.isPoint_of_mem_name
    rw [← hname, hplace]
    simp [hp]
  have hplain : Url.IsPlain app.server := by
    -- names may hold the end of a line, but a URL with one would not have been read
    intro p hp
    apply Identifier.isPlain_of_isPoint (hpoint p hp)
    · rintro rfl
      exact hslash hp
    · apply Url.not_isControl_of_parse hu
      rw [htext]
      simp [hp]
  have hpass : ∀ p ∈ app.server, Url.endsServer p = false :=
    Url.not_endsServer hslash (hplain.not_mem (by decide)) (hplain.not_mem (by decide))
  have hstop : ∀ p ∈ (rest ++ .char '?' :: discoveryQuery).head?, Url.endsServer p = true := by
    intro p hp
    rw [List.head?_append, Option.mem_def, Option.or_eq_some_iff] at hp
    rcases hp with hp | ⟨-, hp⟩
    · rw [hrest p hp]
      rfl
    · rw [← Option.some.inj hp]
      rfl
  refine ⟨hplain, ?_⟩
  rw [htext, Url.ofText_of_server (Url.isScheme_https.cutScheme_append _),
    Url.upTo_append hpass hstop]

/-- The discovery page of a namespace is asked for from the server of the app. -/
structure OnServer (app : App) (u : Url) : Prop where
  host : u.host = app.server
  port : u.port = none
  plain : Url.IsPlain app.server

theorem onServer_of_discoveryUrl (h : place ∈ app.namespaces) (hs : Url.IsScheme scheme)
    (hu : Url.Asked (discoveryUrl place "https") scheme target u) : OnServer app u := by
  have hurl := isWithin_discoveryUrl place "https"
  rcases exists_server h with ⟨-, -, hne, -, -⟩
  rcases Url.exists_of_replaceScheme hurl hu.replaced with ⟨v, -, hv, -, -⟩
  rcases server_of_parse_discoveryUrl h hv with ⟨hplain, hserver⟩
  rcases hplain.host_of_asked hne hs hserver hurl hu with ⟨hhost, hport⟩
  exact ⟨hhost, hport, hplain⟩

/-- The server of a discovery page is the first part of its namespace, which headers can name. -/
theorem nameable_of_discoveryUrl (h : place ∈ app.namespaces) (hs : Url.IsScheme scheme)
    (hu : Url.Asked (discoveryUrl place "https") scheme target u) : u.host ≠ [] ∧ u.Nameable := by
  have hserver := onServer_of_discoveryUrl h hs hu
  rcases exists_server h with ⟨rest, hplace, hne, -, -⟩
  rcases App.isPrefix_of_mem_namespaces h with ⟨more, hname⟩
  have hprefix : app.server <+: app.name := ⟨rest ++ more, by rw [← hname, hplace, List.append_assoc]⟩
  refine ⟨hserver.host ▸ hne, ⟨?_, u.host, ?_⟩⟩
  · rw [hserver.host]
    exact hserver.plain.isAscii
  · rw [Url.hostName, hserver.host, App.not_isPrefixOf_mark hprefix]
    rfl

/-! ## Pages of servers that answer directly -/

variable {client : Client} {allowance : Allowance}

theorem attempt_ne_breakdown (hdirect : client.Direct) (hs : Url.IsScheme scheme) {t : Text}
    (ht : ∀ target u, Url.Asked t scheme target u → u.host ≠ [] ∧ u.Nameable) (verified : Bool)
    (cause : Breakdown) : (client.attempt t scheme verified).outcome ≠ .error (.breakdown cause) := by
  by_cases hu : ∃ target u, Url.Asked t scheme target u
  · rcases hu with ⟨target, u, hu⟩
    rcases ht target u hu with ⟨hhost, hname⟩
    rcases attempt_of_direct hdirect hs hu hhost hname verified with
      ⟨request, -, -, -, houtcome⟩
    rw [houtcome]
    by_cases hsuccess : (client.server request).isSuccess = true
    · rcases documentFrom_of_isSuccess hsuccess target request with ⟨document, h⟩
      rw [h]
      exact nofun
    · rcases documentFrom_of_not_isSuccess hsuccess target request with ⟨error, h⟩
      rw [h]
      exact nofun
  · rcases attempt_of_unreadable client hu verified with ⟨-, place, problem, houtcome⟩
    rw [houtcome]
    exact nofun

theorem fetchPage_ne_breakdown (hdirect : client.Direct) (h : place ∈ app.namespaces)
    (cause : Breakdown) : (client.fetchPage place allowance).outcome ≠ .error (.breakdown cause) := by
  have hsecure := attempt_ne_breakdown hdirect Url.isScheme_https
    (fun _ _ => nameable_of_discoveryUrl h Url.isScheme_https) (!allowance.unverified)
  have hplain := attempt_ne_breakdown hdirect Url.isScheme_http
    (fun _ _ => nameable_of_discoveryUrl h Url.isScheme_http) true
  show (client.fetch _ allowance).outcome ≠ _
  -- a fetch ends by its first attempt or by its second
  match hattempt :
      (client.attempt (discoveryUrl place "https") "https" !allowance.unverified).outcome with
  | .ok document =>
    rw [(fetch_of_done hattempt).1]
    exact nofun
  | .error (.expected error) =>
    cases hallowed : allowance.plaintext with
    | false =>
      rw [(fetch_of_secure hattempt hallowed).1]
      exact nofun
    | true =>
      rw [(fetch_of_plaintext hattempt hallowed).outcome]
      exact hplain cause
  | .error (.breakdown cause') => exact absurd hattempt (hsecure cause')

/-- A walk finds something or is exhausted. -/
theorem walk_eq_ok_or_exhausted (hdirect : client.Direct) (app : App) (kind : Kind)
    (allowance : Allowance) :
    (∃ found, (client.walk app kind allowance).outcome = .ok found) ∨
      ∃ exhaustion, (client.walk app kind allowance).outcome = .error (.expected exhaustion) := by
  have hcalm : ∀ place ∈ app.namespaces, ∀ cause,
      (client.pages allowance place).outcome ≠ .error (.breakdown cause) :=
    fun place h cause => fetchPage_ne_breakdown hdirect h cause
  by_cases hsome : ∃ place ∈ app.namespaces,
      Walk.usable (client.pages allowance) app kind place ≠ []
  · rcases Walk.exists_stopsAt hcalm hsome with ⟨found, hstops⟩
    exact .inl ⟨found, hstops.outcome⟩
  · have hnone : ∀ place ∈ app.namespaces, Walk.usable (client.pages allowance) app kind place = [] :=
      fun place h => Decidable.byContradiction fun hne => hsome ⟨place, h, hne⟩
    rcases Walk.exists_endsInVain hcalm hnone with ⟨attempts, hends⟩
    exact .inr ⟨_, hends.outcome⟩

end Client

end ImageDiscovery
