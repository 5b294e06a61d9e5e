import ImageDiscovery.Proofs.Client.Pages
import ImageDiscovery.Proofs.Url.Numeric
import ImageDiscovery.Proofs.Url.Verbatim

/-!
# Requests for pages — the page of a namespace is asked for where it is

The rules for URLs change nothing in the discovery page of a namespace: it is asked for at the namespace
itself, under one scheme or the other, with the query of discovery pages.  A few namespaces make no URL
and are asked for nowhere.
-/

namespace ImageDiscovery

open Fetch

/-! ## Namespaces as places -/

/-- What stands before the first slash of a namespace. -/
def serverOf (place : Text) : Text := (Url.upTo Url.isSlash place).1

/-- What stands from the first slash of a namespace on. -/
def pathOf (place : Text) : Text := (Url.upTo Url.isSlash place).2

theorem serverOf_append_pathOf (place : Text) : serverOf place ++ pathOf place = place :=
  Url.fst_append_snd_upTo _ _

theorem slash_not_mem_serverOf (place : Text) : CodePoint.char '/' ∉ serverOf place := by
  intro hmem
  exact absurd (Url.of_mem_fst_upTo hmem).2 (by decide)

/-- The URL of the discovery page of a namespace. -/
def pageUrl (place scheme : Text) : Url :=
  .ofPath scheme (serverOf place) (pathOf place) discoveryQuery

/-- A namespace whose discovery page has no URL. -/
inductive Refused (place : Text) : Prop where
  | newline (h : place.getLast? = some (.char '\n'))
  | long (h : Url.maxLength < (discoveryUrl place "https").length)
  | numeric (h : Address.IsDotted (serverOf place)) (hnot : Address.isIpv4 (serverOf place) = false)

variable {app : App} {place scheme : Text}

namespace App

/-- Each part of a namespace but the first begins with a run. -/
theorem exists_split_of_mem_namespaces (h : place ∈ app.namespaces) :
    ∃ first others, place.split (.char '/') = first :: others ∧
      ∀ segment ∈ others, Identifier.beginsRun segment = true := by
  have haccepts := isIdentifier_of_checkIdentifier app.name_ok
  have ⟨first, others, hparts, _, hothers⟩ := Identifier.beginsRun_of_accepts haccepts
  have ⟨i, hi⟩ := List.mem_iff_getElem?.mp h
  have hsplit := split_of_getElem?_namespaces hi
  rw [hparts] at hsplit
  -- at least the first part is kept, since no text is without parts
  cases hkept : (first :: others).length - i with
  | zero =>
    rw [hkept] at hsplit
    exact absurd hsplit (Text.split_ne_nil _ _)
  | succ kept =>
    rw [hkept, List.take_succ_cons] at hsplit
    exact ⟨first, others.take kept, hsplit,
      fun segment hsegment => hothers segment (List.mem_of_mem_take hsegment)⟩

/-- A newline is at the end of a namespace, if there is one. -/
theorem newline_not_mem (h : place ∈ app.namespaces) (hlast : place.getLast? ≠ some (.char '\n')) :
    CodePoint.char '\n' ∉ place := by
  intro hmem
  rcases List.append_of_mem hmem with ⟨before, after, rfl⟩
  rcases isPrefix_of_mem_namespaces h with ⟨more, hname⟩
  have haccepts := isIdentifier_of_checkIdentifier app.name_ok
  rw [← hname, List.append_assoc, List.cons_append] at haccepts
  have hnil := Identifier.eq_nil_of_accepts_newline haccepts
  rw [(List.append_eq_nil_iff.mp hnil).1] at hlast
  exact hlast (List.getLast?_concat ..)

theorem getLast?_ne_slash (h : place ∈ app.namespaces) : place.getLast? ≠ some (.char '/') := by
  intro hlast
  rcases List.getLast?_eq_some_iff.mp hlast with ⟨before, rfl⟩
  have haccepts := isIdentifier_of_checkIdentifier app.name_ok
  have hend : ∀ rest, app.name = before ++ .char '/' :: rest → Identifier.accepts false rest = true := by
    intro rest hname
    rw [hname] at haccepts
    exact Identifier.accepts_of_separator (by decide) (by decide) haccepts
  -- behind the slash the name would have to go on with a run, but it ends or has another slash there
  rcases eq_or_isPrefix_of_mem_namespaces h with hname | ⟨more, hname⟩
  · exact absurd (hend [] hname.symm) (by decide)
  · rw [List.append_assoc, List.append_assoc] at hname
    exact absurd (hend (.char '/' :: more) hname.symm) Bool.false_ne_true

end App

/-! ## Nothing changes -/

/-- Points of a namespace are written in URLs as they are, slashes apart. -/
theorem isPlain_of_mem_namespace (h : place ∈ app.namespaces)
    (hlast : place.getLast? ≠ some (.char '\n')) :
    ∀ p ∈ place, p ≠ .char '/' → Percent.isUnreserved p = true ∧ p.asciiLower = p := by
  have hline := App.newline_not_mem h hlast
  intro p hp hslash
  have hname : Identifier.isPoint p = true := by
    rcases App.isPrefix_of_mem_namespaces h with ⟨more, hname⟩
    apply app.isPoint_of_mem_name
    rw [← hname]
    exact List.mem_append_left _ hp
  apply Identifier.isPlain_of_isPoint hname hslash
  -- a newline is the only point of names that controls anything
  simp only [Identifier.isPoint, Identifier.isWordPoint, CodePoint.isDigit, Identifier.isSeparator,
    Bool.or_eq_true, Bool.and_eq_true, decide_eq_true_eq] at hname
  rcases hname with (hword | (((rfl | rfl) | rfl) | rfl) | rfl) | rfl
  · simp [Url.isControl]
    omega
  all_goals first | decide | exact absurd hp hline

theorem eq_slash_of_head?_pathOf (place : Text) : ∀ p ∈ (pathOf place).head?, p = .char '/' :=
  fun p hp => of_decide_eq_true (Url.of_head?_snd_upTo p hp)

theorem ne_dots_of_beginsRun {segment : Text} (h : Identifier.beginsRun segment = true) :
    segment ≠ "." ∧ segment ≠ ".." := by
  constructor
  all_goals
    rintro rfl
    exact absurd h (by decide)

/-- Nothing in the path of a namespace leads back in it. -/
theorem ne_dots_of_mem_split_pathOf (h : place ∈ app.namespaces) :
    ∀ segment ∈ (pathOf place).split (.char '/'), segment ≠ "." ∧ segment ≠ ".." := by
  rcases App.exists_split_of_mem_namespaces h with ⟨first, others, hsplit, hothers⟩
  cases hpath : pathOf place with
  | nil => decide
  | cons p rest =>
    have hslash : p = .char '/' := by
      apply eq_slash_of_head?_pathOf place
      rw [hpath]
      rfl
    subst hslash
    rw [← serverOf_append_pathOf place, hpath, Text.split_append (slash_not_mem_serverOf place),
      List.cons.injEq] at hsplit
    rw [Text.split_cons_self, hsplit.2, List.forall_mem_cons]
    exact ⟨by decide, fun segment hsegment => ne_dots_of_beginsRun (hothers segment hsegment)⟩

theorem isVerbatim_of_mem_namespaces (h : place ∈ app.namespaces) (hnot : ¬ Refused place) :
    Url.IsVerbatim (serverOf place) (pathOf place) discoveryQuery := by
  have hwhole := serverOf_append_pathOf place
  have hpoint := isPlain_of_mem_namespace h fun hlast => hnot (.newline hlast)
  constructor
  case plain =>
    intro p hp
    apply hpoint p
    · rw [← hwhole]
      exact List.mem_append_left _ hp
    · exact fun hslash => slash_not_mem_serverOf place (hslash ▸ hp)
  case named =>
    rcases Client.exists_server h with ⟨-, -, hne, -, -⟩
    rw [← App.server_of_mem_namespaces h] at hne
    exact hne
  case numeric =>
    intro hnumeric
    rw [← Bool.not_eq_false]
    intro haddress
    exact hnot (.numeric (Address.looksNumeric_iff.mp hnumeric) haddress)
  case points =>
    intro p hp
    by_cases hslash : p = .char '/'
    · exact .inl hslash
    · right
      apply (hpoint p _ hslash).1
      rw [← hwhole]
      exact List.mem_append_right _ hp
  case rooted => exact eq_slash_of_head?_pathOf place
  case segments => exact ne_dots_of_mem_split_pathOf h
  case asks => decide

theorem toText_pageUrl (h : place ∈ app.namespaces) (hnot : ¬ Refused place)
    (hs : Url.IsScheme scheme) : (pageUrl place scheme).toText = discoveryUrl place scheme := by
  have hplace := serverOf_append_pathOf place
  rw [pageUrl, (isVerbatim_of_mem_namespaces h hnot).toText hs.ne_nil, discoveryUrl]
  conv_rhs => rw [← hplace]
  simp only [List.append_assoc]
  rfl

theorem length_discoveryUrl (place scheme : Text) :
    (discoveryUrl place scheme).length = scheme.length + place.length + 18 := by
  simp only [discoveryUrl, List.length_append, List.length_cons]
  show scheme.length + 3 + place.length + (14 + 1) = _
  omega

/-- The discovery page of a namespace is asked for as it is written. -/
theorem asked_discoveryUrl (h : place ∈ app.namespaces) (hnot : ¬ Refused place)
    (hscheme : scheme = "https" ∨ scheme = "http") :
    Url.Asked (discoveryUrl place "https") scheme (discoveryUrl place scheme) (pageUrl place scheme) := by
  have hs := Url.isScheme_of_eq hscheme
  have hverbatim := isVerbatim_of_mem_namespaces h hnot
  have hshort : (discoveryUrl place "https").length ≤ Url.maxLength :=
    Nat.le_of_not_lt fun hlong => hnot (.long hlong)
  have hlength : (discoveryUrl place scheme).length ≤ Url.maxLength := by
    rw [length_discoveryUrl] at hshort ⊢
    rcases hscheme with rfl | rfl
    · exact hshort
    · change 4 + _ + _ ≤ _
      change 5 + _ + _ ≤ _ at hshort
      omega
  rw [← toText_pageUrl h hnot Url.isScheme_https] at hshort ⊢
  rw [← toText_pageUrl h hnot hs] at hlength ⊢
  constructor
  · rw [Url.replaceScheme, toText_pageUrl h hnot Url.isScheme_https, Client.isWithin_discoveryUrl,
      ← toText_pageUrl h hnot Url.isScheme_https, if_pos rfl, pageUrl,
      hverbatim.parse_toText Url.isScheme_https hshort]
    show (Url.withScheme _ scheme >>= _) = _
    rw [hverbatim.withScheme_eq _ hs hlength]
    rfl
  · exact hverbatim.parse_toText hs hlength

theorem not_asked_of_refused (h : place ∈ app.namespaces) (hrefused : Refused place) :
    ¬ ∃ target u, Url.Asked (discoveryUrl place "https") scheme target u := by
  intro hasked
  rcases hasked with ⟨target, u, hu⟩
  -- whatever the scheme is to be, the URL is read first
  rcases Url.exists_of_replaceScheme (Client.isWithin_discoveryUrl place "https") hu.replaced with
    ⟨v, -, hv, -, -⟩
  cases hrefused with
  | newline hlast =>
    have hmem : CodePoint.char '\n' ∈ discoveryUrl place "https" := by
      simp [discoveryUrl, List.mem_of_getLast? hlast]
    exact absurd (Url.not_isControl_of_parse hv _ hmem) (by decide)
  | long hlong =>
    rw [Url.parse, if_pos hlong] at hv
    cases hv
  | numeric hdotted hnot =>
    rcases Client.server_of_parse_discoveryUrl h hv with ⟨hplain, hserver⟩
    have hmade := Url.isMade_of_parse hv
    have hname : serverOf place = app.server := App.server_of_mem_namespaces h
    rw [hname] at hdotted hnot
    have hne : app.server.isEmpty = false := by
      rcases Client.exists_server h with ⟨-, -, hne, -, -⟩
      simpa using hne
    have hhost := hmade.host
    rw [hserver, hplain.ofText_eq, Url.encodeHost, hne, Address.looksNumeric_iff.mpr hdotted] at hhost
    simp [hnot] at hhost

/-! ## Where the request goes -/

namespace Place

theorem trimmed_of_getLast? {t : Text} (h : t.getLast? ≠ some (.char '/')) : trimmed t = t := by
  apply Text.dropEndWhile_eq_self
  intro p hp
  exact decide_eq_false fun e => h (e ▸ hp)

theorem trimmed_append_slash (t : Text) : trimmed (t ++ [.char '/']) = trimmed t :=
  Text.dropEndWhile_append_of_pos (by decide)

end Place

/-- The place that the page is at is the namespace, whatever the scheme. -/
theorem ofUrl_pageUrl (h : place ∈ app.namespaces) (hnot : ¬ Refused place) (scheme : Text) :
    Place.ofUrl (pageUrl place scheme) = ⟨scheme, place⟩ := by
  have hverbatim := isVerbatim_of_mem_namespaces h hnot
  have hwhole := serverOf_append_pathOf place
  have hname : (pageUrl place scheme).hostName = .ok (serverOf place) := by
    rcases App.isPrefix_of_mem_namespaces h with ⟨more, hname⟩
    have hprefix : serverOf place <+: app.name := by
      refine ⟨pathOf place ++ more, ?_⟩
      rw [← List.append_assoc, hwhole, hname]
    rw [Url.hostName]
    show (if Idna.mark.isPrefixOf (serverOf place) = true then _ else _) = _
    rw [App.not_isPrefixOf_mark hprefix]
    rfl
  have htrimmed : Place.trimmed place = place := Place.trimmed_of_getLast? (App.getLast?_ne_slash h)
  rw [Place.ofUrl, hname, Place.ofLocation]
  show Place.mk scheme (Place.trimmed (serverOf place ++ (pageUrl place scheme).pathName)) = _
  congr 1
  by_cases hpath : pathOf place = []
  · -- an empty path is read as a slash, which is trimmed again
    have hslash : (pageUrl place scheme).pathName = [.char '/'] := by
      have hempty : (pageUrl place scheme).path = [] := hpath
      rw [Url.pathName, hempty]
      decide +kernel
    rw [hpath, List.append_nil] at hwhole
    rw [hslash, Place.trimmed_append_slash, hwhole, htrimmed]
  · have hascii : (pathOf place).isAscii = true := by
      rw [Text.isAscii, List.all_eq_true]
      intro p hp
      rcases hverbatim.points p hp with rfl | hpoint
      · decide
      · exact Percent.isAscii_of_isUnreserved hpoint
    have hpercent : CodePoint.char '%' ∉ pathOf place := by
      intro hmem
      rcases hverbatim.points _ hmem with hslash | hpoint
      · exact absurd hslash (by decide)
      · exact absurd hpoint (by decide)
    have hsame : (pageUrl place scheme).pathName = pathOf place := by
      have hfull : (pathOf place).isEmpty = false := by simpa using hpath
      rw [Url.pathName]
      show Percent.decode (if (pathOf place).isEmpty = true then _ else pathOf place) = _
      rw [hfull, if_neg (by decide), Percent.decode_eq_self hascii hpercent]
    rw [hsame, hwhole, htrimmed]

/-! ## The requests of a fetch -/

namespace Client

variable {client : Client} {t target : Text} {u : Url} {allowance : Allowance}

/-- A request that cannot be made breaks the fetch down, unless its server cannot be told. -/
theorem exists_breakdown_of_request {headers : Mapping Text} {verified : Bool}
    {failure : Failure TransportFault} (hrelative : u.isRelative = false)
    (h : client.request u headers verified = .error failure) : ∃ cause, failure = .breakdown cause := by
  rw [request, if_neg (by simp [hrelative])] at h
  change (Request.make? u client.config.userAgent headers verified).mapError _ = _ at h
  cases hmake : Request.make? u client.config.userAgent headers verified with
  | ok r =>
    rw [hmake] at h
    cases h
  | error broken =>
    rw [hmake] at h
    exact ⟨_, (Except.error.inj h).symm⟩

theorem attempt_of_broken_ask (hu : Url.Asked t scheme target u) {verified : Bool} {cause : Breakdown}
    (h : (client.ask target u verified).outcome = .error (.breakdown cause)) :
    (client.attempt t scheme verified).outcome = .error (.breakdown cause) := by
  rw [attempt_of_asked hu]
  exact Run.outcome_bind_of_error (Run.outcome_either_of_breakdown h)

/-- Where no answer points elsewhere, an attempt that comes to a request makes no other. -/
theorem requests_attempt_of_request (hstraight : NeverRedirects client.server)
    (hu : Url.Asked t scheme target u) {headers : Mapping Text} {verified : Bool} {r : Request}
    (hheaders : client.headersFor u = .ok headers)
    (hrequest : client.request u headers verified = .ok r) :
    (client.attempt t scheme verified).requests = [r] := by
  rw [requests_attempt_of_asked hu, (exchange_of_ask hheaders hrequest target).2,
    requests_exchange_of_straight hstraight]

/-- An attempt for a URL with a server makes one request, or it breaks down before. -/
theorem requests_attempt_of_straight (hstraight : NeverRedirects client.server)
    (hu : Url.Asked t scheme target u) (hrelative : u.isRelative = false) (verified : Bool) :
    (∃ request, request.url = u ∧ (client.attempt t scheme verified).requests = [request]) ∨
      (client.attempt t scheme verified).requests = [] ∧
        ∃ cause, (client.attempt t scheme verified).outcome = .error (.breakdown cause) := by
  have hask : (client.attempt t scheme verified).requests =
      (client.ask target u verified).requests := requests_attempt_of_asked hu verified
  cases hheaders : client.headersFor u with
  | error cause =>
    have hsilent : client.ask target u verified = ⟨.error (.breakdown cause), {}⟩ := by
      rw [ask, hheaders]
      rfl
    rw [hsilent] at hask
    exact .inr ⟨hask, cause, attempt_of_broken_ask hu (congrArg Run.outcome hsilent)⟩
  | ok headers =>
    cases hrequest : client.request u headers verified with
    | error failure =>
      rcases exists_breakdown_of_request hrelative hrequest with ⟨cause, rfl⟩
      have hbroken : (client.ask target u verified).outcome = .error (.breakdown cause) := by
        rw [ask_of_headersFor hheaders, hrequest]
        rfl
      rw [ask_of_headersFor hheaders, hrequest] at hask
      exact .inr ⟨hask, cause, attempt_of_broken_ask hu hbroken⟩
    | ok r =>
      have hurl : r.url = u := by
        rcases (exists_make?_of_request hrequest).1 with hsame | ⟨hnot, -⟩
        · exact hsame
        · rw [hrelative] at hnot
          cases hnot
      exact .inl ⟨r, hurl, requests_attempt_of_request hstraight hu hheaders hrequest⟩

/-! ## Requests for a page -/

/-- A request for the discovery page of a namespace under a scheme: the place and the query are those of
    the page, and its URL is written like the page's. -/
structure IsForPage (place scheme : Text) (request : Request) : Prop where
  isAt : Place.ofUrl request.url = ⟨scheme, place⟩
  query : request.url.query = some discoveryQuery
  text : request.url.toText = discoveryUrl place scheme

theorem isForPage_of_url (h : place ∈ app.namespaces) (hnot : ¬ Refused place)
    (hs : Url.IsScheme scheme) {request : Request} (hurl : request.url = pageUrl place scheme) :
    IsForPage place scheme request := by
  constructor
  · rw [hurl, ofUrl_pageUrl h hnot]
  · rw [hurl]
    rfl
  · rw [hurl, toText_pageUrl h hnot hs]

/-- The requests of a fetch of a discovery page: one over HTTPS, and at most one more over HTTP. -/
structure PageRequests (place : Text) (requests : List Request) : Prop where
  first : ∀ request ∈ requests.head?, IsForPage place "https" request
  fallback : ∀ request ∈ requests.tail, IsForPage place "http" request
  few : requests.length ≤ 2

namespace PageRequests

theorem none (place : Text) : PageRequests place [] := ⟨nofun, nofun, Nat.zero_le 2⟩

theorem one {first : Request} (h : IsForPage place "https" first) : PageRequests place [first] := by
  refine ⟨?_, nofun, Nat.le_succ 1⟩
  intro request hrequest
  rw [← Option.some.inj hrequest]
  exact h

theorem two {first second : Request} (h : IsForPage place "https" first)
    (h' : IsForPage place "http" second) : PageRequests place [first, second] := by
  refine ⟨?_, ?_, Nat.le_refl 2⟩
  · intro request hrequest
    rw [← Option.some.inj hrequest]
    exact h
  · intro request hrequest
    rw [List.mem_singleton.mp hrequest]
    exact h'

/-- Whatever the scheme is, all requests are for one place. -/
theorem exists_scheme {requests : List Request} (h : PageRequests place requests) {request : Request}
    (hmem : request ∈ requests) :
    ∃ scheme : Text, (scheme = "https" ∨ scheme = "http") ∧ IsForPage place scheme request := by
  cases requests with
  | nil => exact nomatch hmem
  | cons first rest =>
    rcases List.mem_cons.mp hmem with rfl | hrest
    · exact ⟨"https", .inl rfl, h.first _ rfl⟩
    · exact ⟨"http", .inr rfl, h.fallback request hrest⟩

end PageRequests

theorem isRelative_pageUrl (h : place ∈ app.namespaces) (hnot : ¬ Refused place)
    (hs : Url.IsScheme scheme) : (pageUrl place scheme).isRelative = false := by
  have hhost : (pageUrl place scheme).host ≠ [] := (isVerbatim_of_mem_namespaces h hnot).named
  have hscheme : (pageUrl place scheme).scheme ≠ [] := hs.ne_nil
  simp [Url.isRelative, hhost, hscheme]

theorem pageRequests_of_not_refused (hstraight : NeverRedirects client.server)
    (h : place ∈ app.namespaces) (hnot : ¬ Refused place) (allowance : Allowance) :
    PageRequests place (client.fetchPage place allowance).requests := by
  have hsecure := requests_attempt_of_straight hstraight (asked_discoveryUrl h hnot (.inl rfl))
    (isRelative_pageUrl h hnot Url.isScheme_https) (!allowance.unverified)
  have hplain := requests_attempt_of_straight hstraight (asked_discoveryUrl h hnot (.inr rfl))
    (isRelative_pageUrl h hnot Url.isScheme_http) true
  rcases hsecure with ⟨first, hfirst, hone⟩ | ⟨hnone, cause, hbroken⟩
  · have hasks := isForPage_of_url h hnot Url.isScheme_https hfirst
    rcases client.requests_fetch_of_attempts (discoveryUrl place "https") allowance with
      hrequests | hrequests
    · rw [fetchPage, hrequests, hone]
      exact .one hasks
    · rw [fetchPage, hrequests, hone]
      rcases hplain with ⟨second, hsecond, htwo⟩ | ⟨hnone, -⟩
      · rw [htwo]
        exact .two hasks (isForPage_of_url h hnot Url.isScheme_http hsecond)
      · rw [hnone]
        exact .one hasks
  · -- without a first request there is no second one
    have hnothing : (client.fetchPage place allowance).requests = [] :=
      (Run.requests_either_of_breakdown hbroken).trans hnone
    rw [hnothing]
    exact .none place

/-- A client that can send what it is told to does ask for the page. -/
theorem requests_fetchPage_ne_nil (hascii : client.AsciiHeaders) (h : place ∈ app.namespaces)
    (hnot : ¬ Refused place) (allowance : Allowance) :
    (client.fetchPage place allowance).requests ≠ [] := by
  have hu := asked_discoveryUrl h hnot (.inl rfl)
  have hhost : (pageUrl place "https").host ≠ [] := (isVerbatim_of_mem_namespaces h hnot).named
  rcases nameable_of_discoveryUrl h Url.isScheme_https hu with ⟨-, hname⟩
  rcases exists_first_request hascii hu hhost hname allowance with ⟨first, -, -, hfirst⟩
  intro hnone
  rw [fetchPage] at hnone
  rw [hnone] at hfirst
  exact nomatch hfirst

/-- A fetch that asks for nothing at all breaks down, since what it is told to send is not ASCII. -/
theorem breaksDown_of_no_request (hstraight : NeverRedirects client.server)
    (h : place ∈ app.namespaces) (hnot : ¬ Refused place)
    (hnone : (client.fetchPage place allowance).requests = []) :
    ¬ client.AsciiHeaders ∧ ∃ cause,
      (client.fetchPage place allowance).outcome = .error (.breakdown cause) := by
  refine ⟨fun hascii => requests_fetchPage_ne_nil hascii h hnot allowance hnone, ?_⟩
  rcases requests_attempt_of_straight hstraight (asked_discoveryUrl h hnot (.inl rfl))
    (isRelative_pageUrl h hnot Url.isScheme_https) (!allowance.unverified) with
    ⟨first, -, hone⟩ | ⟨-, cause, hbroken⟩
  · -- the requests of a fetch begin with those of its first attempt
    rcases client.requests_fetch_of_attempts (discoveryUrl place "https") allowance with
      hrequests | hrequests
    all_goals
      rw [fetchPage, hrequests, hone] at hnone
      exact absurd hnone (List.cons_ne_nil _ _)
  · exact ⟨cause, Run.outcome_either_of_breakdown hbroken⟩

theorem endsUnread_of_refused (client : Client) (h : place ∈ app.namespaces) (hrefused : Refused place)
    (allowance : Allowance) : client.EndsUnread (discoveryUrl place "https") allowance [] :=
  client.endsUnread_of_unreadable (not_asked_of_refused h hrefused)
    fun _ => not_asked_of_refused h hrefused

/-- Behind their schemes, texts of places are the same only if the places are. -/
theorem location_inj {scheme' location location' : Text} (hs : Url.IsScheme scheme)
    (hs' : Url.IsScheme scheme')
    (h : Place.toText ⟨scheme, location⟩ = Place.toText ⟨scheme', location'⟩) :
    location = location' := by
  have htext : ∀ s l : Text, Place.toText ⟨s, l⟩ = s ++ .char ':' :: .char '/' :: .char '/' :: l := by
    intro s l
    rw [Place.toText, List.append_assoc]
    rfl
  -- the scheme is read from the text, and so is what is behind it
  have hcut := hs.cutScheme_append (.char '/' :: .char '/' :: location)
  rw [← htext, h, htext, hs'.cutScheme_append] at hcut
  have hrest := (Prod.mk.inj hcut).2
  simp only [List.cons.injEq, true_and] at hrest
  exact hrest.symm

/-- **Pages are asked for where they are.**  Where no answer points elsewhere, a fetch of the discovery
    page of a namespace asks for it at the namespace itself, over HTTPS first and then, at most, over
    HTTP, and no rule for URLs changes anything; only a client that is told to send what is not ASCII breaks
    down before it asks.  If the page has no URL, nothing is asked for, and the fetch ends because of that.
    Pages of different namespaces are asked for at different places. -/
theorem fetchPage_of_namespace (hstraight : NeverRedirects client.server)
    (h : place ∈ app.namespaces) (allowance : Allowance) :
    (¬ Refused place →
      PageRequests place (client.fetchPage place allowance).requests ∧
        ((client.fetchPage place allowance).requests = [] → ¬ client.AsciiHeaders ∧
          ∃ cause, (client.fetchPage place allowance).outcome = .error (.breakdown cause))) ∧
      (Refused place → client.EndsUnread (discoveryUrl place "https") allowance []) ∧
      ∀ (app' : App) (allowance' : Allowance), ∀ other ∈ app'.namespaces, other ≠ place →
        ∀ r ∈ (client.fetchPage place allowance).requests,
          ∀ r' ∈ (client.fetchPage other allowance').requests,
            (Place.ofUrl r.url).toText ≠ (Place.ofUrl r'.url).toText := by
  refine ⟨?_, fun hrefused => endsUnread_of_refused client h hrefused allowance, ?_⟩
  · intro hnot
    exact ⟨pageRequests_of_not_refused hstraight h hnot allowance,
      breaksDown_of_no_request hstraight h hnot⟩
  · intro app' allowance' other hother hne r hr r' hr' hsame
    -- nothing is asked for at a refused place, so both requests are for the pages of their places
    have hasked : ∀ (a : App) (p : Text) (b : Allowance), p ∈ a.namespaces →
        ∀ q ∈ (client.fetchPage p b).requests, ∃ scheme : Text,
          (scheme = "https" ∨ scheme = "http") ∧ IsForPage p scheme q := by
      intro a p b hp q hq
      by_cases hrefused : Refused p
      · have hnothing : (client.fetchPage p b).requests = [] :=
          (endsUnread_of_refused client hp hrefused b).requests
        rw [hnothing] at hq
        exact nomatch hq
      · exact (pageRequests_of_not_refused hstraight hp hrefused b).exists_scheme hq
    rcases hasked app place allowance h r hr with ⟨scheme, hscheme, hfor⟩
    rcases hasked app' other allowance' hother r' hr' with ⟨scheme', hscheme', hfor'⟩
    rw [hfor.isAt, hfor'.isAt] at hsame
    exact hne (location_inj (Url.isScheme_of_eq hscheme) (Url.isScheme_of_eq hscheme') hsame).symm

theorem checkLabels_empty : checkLabels {} = none := by decide

/-- An app with two namespaces. -/
def worker : App := ⟨"example.com/worker", {}, by decide, checkLabels_empty⟩

theorem not_refused_worker : ¬ Refused "example.com/worker" := by
  intro hrefused
  cases hrefused with
  | newline h => exact absurd h (by decide)
  | long h => exact absurd h (by decide)
  | numeric h _ => exact absurd (Address.looksNumeric_iff.mpr h) (by decide)

theorem fetchPage_of_namespace_worker :
    let client : Client := { config := { dialTimeout := defaultDialTimeout }, server := Site.reply {} }
    NeverRedirects client.server ∧ Text.ofString "example.com/worker" ∈ worker.namespaces ∧
      ∃ first, (client.fetchPage "example.com/worker" .none).requests.head? = some first ∧
        IsForPage "example.com/worker" "https" first := by
  intro client
  have hstraight : NeverRedirects client.server :=
    Site.neverRedirects (rfl : ({} : Site).detours = {})
  have hplace : Text.ofString "example.com/worker" ∈ worker.namespaces := by decide
  rcases (fetchPage_of_namespace hstraight hplace .none).1 not_refused_worker with ⟨hpage, hsome⟩
  have hne : (client.fetchPage "example.com/worker" .none).requests ≠ [] := fun hnone =>
    (hsome hnone).1 (asciiHeaders_default _)
  rcases List.exists_cons_of_ne_nil hne with ⟨first, rest, hrequests⟩
  have hhead : (client.fetchPage "example.com/worker" .none).requests.head? = some first := by
    rw [hrequests]
    rfl
  exact ⟨hstraight, hplace, first, hhead, hpage.first first hhead⟩

end Client

end ImageDiscovery
