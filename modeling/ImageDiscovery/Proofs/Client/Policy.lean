import ImageDiscovery.Proofs.Client.Asking
import ImageDiscovery.Proofs.Fetch.Direct
import ImageDiscovery.Proofs.Url.Plain
import ImageDiscovery.Proofs.Walk.Order

/-!
# Policy — which requests a fetch makes, and what comes of them

Where servers answer directly, an attempt makes one request and ends by the reply to it.  So a fetch
makes one request over HTTPS and, only if that fails and plain text is allowed, one more over HTTP for the
same place.  A text that names nothing under the schemes that may be used is asked for nowhere.
-/

namespace ImageDiscovery

open Fetch

def Fetch.Reply.isSuccess : Reply → Bool
  | .answer status _ _ => 200 ≤ status && status ≤ 299
  | .fault _ => false

namespace Client

/-- A client that can send what it is told to, and servers that answer it directly. -/
structure Direct (client : Client) : Prop where
  ascii : client.AsciiHeaders
  calm : NeverMisused client.server
  straight : NeverRedirects client.server

theorem direct_of_site {site : Site} (hdetours : site.detours = {})
    (hroutes : ∀ place fault, (place, Route.fault fault) ∈ site.routes → fault.isMisuse = false) :
    Direct { config := { dialTimeout := defaultDialTimeout }, server := site.reply } :=
  ⟨asciiHeaders_default _, Site.neverMisused hroutes, Site.neverRedirects hdetours⟩

variable {client : Client} {t target : Text} {u : Url}

/-! ## One attempt -/

/-- What an attempt comes to by the reply to its request. -/
def documentFrom (target : Text) (request : Request) :
    Reply → Except (Failure FetchError) Document
  | .answer status _ body =>
    if 200 ≤ status && status ≤ 299 then .ok ⟨request.url.toText, body⟩
    else .error (.expected (.badStatus target status))
  | .fault fault => .error (.expected (.connection target fault))

theorem documentFrom_of_isSuccess {reply : Reply} (h : reply.isSuccess = true) (target : Text)
    (request : Request) :
    ∃ document, documentFrom target request reply = .ok document := by
  cases reply with
  | answer status location body => exact ⟨_, if_pos h⟩
  | fault fault => exact nomatch h

theorem documentFrom_of_not_isSuccess {reply : Reply} (h : ¬ reply.isSuccess = true) (target : Text)
    (request : Request) :
    ∃ error, documentFrom target request reply = .error (.expected error) := by
  cases reply with
  | answer status location body => exact ⟨_, if_neg h⟩
  | fault fault => exact ⟨_, rfl⟩

/-- A request for what a text names under a scheme. -/
structure Attempts (t scheme target : Text) (verified : Bool) (request : Request) : Prop where
  asked : Url.Asked t scheme target request.url
  scheme : request.url.scheme = scheme
  verified : request.verified = verified

theorem requests_attempt_of_asked (hu : Url.Asked t scheme target u) (verified : Bool) :
    (client.attempt t scheme verified).requests = (client.ask target u verified).requests := by
  rw [attempt_of_asked hu, Run.requests_bind, Run.requests_mapError]
  split
  · rw [requests_documentOf, List.append_nil]
  · exact List.append_nil _

/-- An attempt that has come to its request makes this one, and ends by the reply. -/
theorem attempt_of_request {scheme : Text} (hs : Url.IsScheme scheme)
    (hu : Url.Asked t scheme target u) {headers : Mapping Text} {verified : Bool} {request : Request}
    (hheaders : client.headersFor u = .ok headers)
    (hrequest : client.request u headers verified = .ok request) (hurl : request.url = u)
    (hcalm : ∀ fault, client.server request = .fault fault → fault.isMisuse = false)
    (hstraight : NeverRedirects client.server) :
    (client.attempt t scheme verified).requests = [request] ∧
      (client.attempt t scheme verified).outcome =
        documentFrom target request (client.server request) := by
  subst hurl
  have hscheme : request.url.scheme = scheme := hu.scheme_eq hs
  have hkind : tellsKind request.url.toText = true := Url.tellsKind_toText (hscheme ▸ hs)
  rcases exchange_of_ask hheaders hrequest target with ⟨houtcome, hrequests⟩
  rcases exchange_of_direct hcalm hstraight hkind client.config.followRedirects with
    ⟨hone, hreceived⟩
  rw [hone] at hrequests
  rw [hreceived] at houtcome
  rw [attempt_of_asked hu]
  match hreply : client.server request with
  | .answer status location body =>
    have hask : (client.ask target request.url verified).outcome =
        .ok ⟨request.url, status, location, body⟩ := by
      rw [houtcome, hreply]
      rfl
    have hdocument := Run.outcome_mapError_of_ok (f := FetchError.connection target) hask
    constructor
    · rw [Run.requests_bind_of_ok hdocument, Run.requests_mapError, hrequests,
        requests_documentOf, List.append_nil]
    · rw [Run.outcome_bind_of_ok hdocument, documentOf, documentFrom]
      show (if (200 ≤ status && status ≤ 299) = true then _ else _ : Run _ _).outcome = _
      split <;> rfl
  | .fault fault =>
    have hask : (client.ask target request.url verified).outcome = .error (.expected fault) := by
      rw [houtcome, hreply]
      rfl
    have hfailed := Run.outcome_mapError_of_expected (f := FetchError.connection target) hask
    constructor
    · rw [Run.requests_bind_of_error hfailed, Run.requests_mapError, hrequests]
    · rw [Run.outcome_bind_of_error hfailed]
      rfl

/-- An attempt that names its server is one request, and ends by the reply. -/
theorem attempt_of_direct (h : client.Direct) {scheme : Text} (hs : Url.IsScheme scheme)
    (hu : Url.Asked t scheme target u) (hhost : u.host ≠ []) (hname : u.Nameable)
    (verified : Bool) :
    ∃ request, request.url = u ∧ Attempts t scheme target verified request ∧
      (client.attempt t scheme verified).requests = [request] ∧
      (client.attempt t scheme verified).outcome =
        documentFrom target request (client.server request) := by
  have hscheme : u.scheme = scheme := hu.scheme_eq hs
  rcases exists_request h.ascii hname (Url.isRelative_eq_false hs hu hhost) verified with
    ⟨headers, request, hheaders, hrequest, hurl, hverified⟩
  have hattempt := attempt_of_request hs hu hheaders hrequest hurl (h.calm request) h.straight
  subst hurl
  exact ⟨request, rfl, ⟨hu, hscheme, hverified⟩, hattempt⟩

/-- What an attempt that gives a document has gone through. -/
theorem exists_request_of_attempt {scheme : Text} {verified : Bool} {document : Document}
    (h : (client.attempt t scheme verified).outcome = .ok document) :
    ∃ target u headers request, Url.Asked t scheme target u ∧ client.headersFor u = .ok headers ∧
      client.request u headers verified = .ok request := by
  rcases Run.outcome_bind_eq_ok_iff.mp h with ⟨target, htarget, h⟩
  rcases Run.outcome_bind_eq_ok_iff.mp h with ⟨u, hu, h⟩
  rcases Run.outcome_bind_eq_ok_iff.mp h with ⟨answer, hask, -⟩
  rw [Run.outcome_mapError_eq_ok_iff] at hask
  rcases Run.outcome_bind_eq_ok_iff.mp hask with ⟨headers, hheaders, h⟩
  rcases Run.outcome_bind_eq_ok_iff.mp h with ⟨-, -, h⟩
  rcases Run.outcome_bind_eq_ok_iff.mp h with ⟨request, hrequest, -⟩
  exact ⟨target, u, headers, request,
    ⟨eq_ok_of_mapError_eq_ok htarget, eq_ok_of_mapError_eq_ok hu⟩,
    eq_ok_of_mapError_eq_ok hheaders, hrequest⟩

variable (client) in
theorem attempt_of_unreadable {scheme : Text} (h : ¬ ∃ target u, Url.Asked t scheme target u)
    (verified : Bool) :
    (client.attempt t scheme verified).requests = [] ∧
      ∃ place problem, (client.attempt t scheme verified).outcome =
        .error (.expected (.connection place (.invalidUrl (Url.Problem.message problem)))) := by
  cases hreplaced : Url.replaceScheme t scheme with
  | error problem =>
    rw [attempt, hreplaced]
    exact ⟨rfl, t, problem, rfl⟩
  | ok target =>
    cases hparsed : Url.parse target with
    | error problem =>
      rw [attempt, hreplaced]
      show (Run.ofExcept ((Url.parse target).mapError _) >>= _).requests = _ ∧
        ∃ place problem, (Run.ofExcept ((Url.parse target).mapError _) >>= _).outcome = _
      rw [hparsed]
      exact ⟨rfl, target, problem, rfl⟩
    | ok u => exact absurd ⟨target, u, hreplaced, hparsed⟩ h

/-! ## Two attempts -/

variable {allowance : Allowance}

theorem fetch_of_breakdown {cause : Breakdown}
    (h : (client.attempt t "https" !allowance.unverified).outcome = .error (.breakdown cause)) :
    (client.fetch t allowance).outcome = .error (.breakdown cause) :=
  Run.outcome_either_of_breakdown h

theorem fetch_of_done {document : Document}
    (h : (client.attempt t "https" !allowance.unverified).outcome = .ok document) :
    (client.fetch t allowance).outcome = .ok document ∧
      (client.fetch t allowance).requests =
        (client.attempt t "https" !allowance.unverified).requests := by
  refine ⟨Run.outcome_either_of_ok h, ?_⟩
  rw [fetch, Run.requests_either_of_ok h, Run.requests_pure, List.append_nil]

theorem fetch_of_secure {error : FetchError}
    (h : (client.attempt t "https" !allowance.unverified).outcome = .error (.expected error))
    (hsecure : allowance.plaintext = false) :
    (client.fetch t allowance).outcome = .error (.expected error) ∧
      (client.fetch t allowance).requests =
        (client.attempt t "https" !allowance.unverified).requests := by
  rw [fetch, Run.outcome_either_of_expected h, Run.requests_either_of_expected h, hsecure]
  exact ⟨rfl, List.append_nil _⟩

theorem fetch_of_plaintext {error : FetchError}
    (h : (client.attempt t "https" !allowance.unverified).outcome = .error (.expected error))
    (hplain : allowance.plaintext = true) :
    (client.fetch t allowance).GoesOn (client.attempt t "https" !allowance.unverified).requests
      (client.attempt t "http" true) := by
  constructor
  · rw [fetch, Run.outcome_either_of_expected h, if_pos hplain, Run.outcome_told_bind]
  · rw [fetch, Run.requests_either_of_expected h, if_pos hplain, Run.requests_told_bind]

/-- A fetch makes the requests of its first attempt, and at most those of its second one after them. -/
theorem requests_fetch_of_attempts (client : Client) (t : Text) (allowance : Allowance) :
    let first := (client.attempt t "https" !allowance.unverified).requests
    (client.fetch t allowance).requests = first ∨
      (client.fetch t allowance).requests = first ++ (client.attempt t "http" true).requests := by
  match hattempt : (client.attempt t "https" !allowance.unverified).outcome with
  | .ok document => exact .inl (fetch_of_done hattempt).2
  | .error (.breakdown cause) => exact .inl (Run.requests_either_of_breakdown hattempt)
  | .error (.expected error) =>
    cases hallowed : allowance.plaintext with
    | false => exact .inl (fetch_of_secure hattempt hallowed).2
    | true => exact .inr (fetch_of_plaintext hattempt hallowed).requests

/-- Whatever servers answer, the first request is for what the text names over HTTPS. -/
theorem exists_first_request (hascii : client.AsciiHeaders) (hu : Url.Asked t "https" target u)
    (hhost : u.host ≠ []) (hname : u.Nameable) (allowance : Allowance) :
    ∃ first, first.url = u ∧ first.verified = !allowance.unverified ∧
      (client.fetch t allowance).requests.head? = some first := by
  rcases exists_request hascii hname (Url.isRelative_eq_false Url.isScheme_https hu hhost)
    (!allowance.unverified) with ⟨headers, first, hheaders, hrequest, hurl, hverified⟩
  rcases requests_exchange client.server client.config.followRedirects first with ⟨rest, hrest, -⟩
  have hattempt : (client.attempt t "https" !allowance.unverified).requests = first :: rest := by
    rw [requests_attempt_of_asked hu, (exchange_of_ask hheaders hrequest target).2, hrest]
  refine ⟨first, hurl, hverified, ?_⟩
  rcases client.requests_fetch_of_attempts t allowance with hrequests | hrequests
  all_goals
    rw [hrequests, hattempt]
    rfl

/-- A fetch that makes some requests and ends by the reply to the last one. -/
structure EndsBy (client : Client) (t : Text) (allowance : Allowance) (requests : List Request)
    (target : Text) (last : Request) : Prop where
  requests : (client.fetch t allowance).requests = requests
  outcome : (client.fetch t allowance).outcome = documentFrom target last (client.server last)

/-- A fetch that makes some requests and ends because the text is not a URL under the next scheme. -/
structure EndsUnread (client : Client) (t : Text) (allowance : Allowance)
    (requests : List Request) : Prop where
  requests : (client.fetch t allowance).requests = requests
  outcome : ∃ place problem, (client.fetch t allowance).outcome =
    .error (.expected (.connection place (.invalidUrl (Url.Problem.message problem))))

/-- What comes after a request over HTTPS: nothing if it succeeds or plain text is not allowed, and
    else a request over HTTP for the same place, if the text is a URL under that scheme. -/
structure Continues (client : Client) (t : Text) (allowance : Allowance) (target : Text)
    (first : Request) : Prop where
  done : (client.server first).isSuccess = true ∨ allowance.plaintext = false →
    client.EndsBy t allowance [first] target first
  plaintext : ¬ (client.server first).isSuccess = true → allowance.plaintext = true →
    ∀ target' u', Url.Asked t "http" target' u' → u'.host ≠ [] →
      ∃ second, second.url = u' ∧ Attempts t "http" target' true second ∧
        Url.SamePlace first.url second.url ∧
        client.EndsBy t allowance [first, second] target' second
  unread : ¬ (client.server first).isSuccess = true → allowance.plaintext = true →
    (¬ ∃ target' u', Url.Asked t "http" target' u') → client.EndsUnread t allowance [first]

theorem exists_continues (h : client.Direct) (allowance : Allowance) (hu : Url.Asked t "https" target u)
    (hhost : u.host ≠ []) (hname : u.Nameable) :
    ∃ first, first.url = u ∧ Attempts t "https" target (!allowance.unverified) first ∧
      client.Continues t allowance target first := by
  rcases attempt_of_direct h Url.isScheme_https hu hhost hname
    (!allowance.unverified) with ⟨first, rfl, hattempts, hrequests, houtcome⟩
  -- a failure is what lets the fetch go on
  have hfails : ¬ (client.server first).isSuccess = true →
      ∃ error, documentFrom target first (client.server first) = .error (.expected error) ∧
        (client.attempt t "https" !allowance.unverified).outcome = .error (.expected error) := by
    intro hfailed
    rcases documentFrom_of_not_isSuccess hfailed target first with ⟨error, herror⟩
    exact ⟨error, herror, houtcome.trans herror⟩
  refine ⟨first, rfl, hattempts, ?_, ?_, ?_⟩
  · intro hdone
    by_cases hsuccess : (client.server first).isSuccess = true
    · rcases documentFrom_of_isSuccess hsuccess target first with ⟨document, hdocument⟩
      have hfetch := fetch_of_done (houtcome.trans hdocument)
      exact ⟨hfetch.2.trans hrequests, hfetch.1.trans hdocument.symm⟩
    · rcases hfails hsuccess with ⟨error, herror, hattempt⟩
      have hfetch := fetch_of_secure hattempt (hdone.resolve_left hsuccess)
      exact ⟨hfetch.2.trans hrequests, hfetch.1.trans herror.symm⟩
  · intro hfailed hplain target' u' hu' hhost'
    have hplace : Url.SamePlace first.url u' := Url.samePlace_of_replaceScheme Url.isScheme_https
      Url.isScheme_http hu.replaced hu.parsed hu'.replaced hu'.parsed hhost hhost'
    -- the host is the same, so it can be named again
    rcases attempt_of_direct h Url.isScheme_http hu' hhost'
      (hname.of_host hplace.host) true with ⟨second, rfl, hattempts', hrequests', houtcome'⟩
    rcases hfails hfailed with ⟨error, -, hattempt⟩
    have hfetch := fetch_of_plaintext hattempt hplain
    refine ⟨second, rfl, hattempts', hplace, ?_, hfetch.outcome.trans houtcome'⟩
    rw [hfetch.requests, hrequests, hrequests']
    rfl
  · intro hfailed hplain hnone
    rcases attempt_of_unreadable client hnone true with
      ⟨hrequests', place, problem, houtcome'⟩
    rcases hfails hfailed with ⟨error, -, hattempt⟩
    have hfetch := fetch_of_plaintext hattempt hplain
    refine ⟨?_, place, problem, hfetch.outcome.trans houtcome'⟩
    rw [hfetch.requests, hrequests, hrequests']
    rfl

variable (client) in
theorem endsUnread_of_unreadable (hsecure : ¬ ∃ target u, Url.Asked t "https" target u)
    (hplaintext : allowance.plaintext = true → ¬ ∃ target u, Url.Asked t "http" target u) :
    client.EndsUnread t allowance [] := by
  rcases attempt_of_unreadable client hsecure (!allowance.unverified) with
    ⟨hrequests, place, problem, houtcome⟩
  cases hplain : allowance.plaintext with
  | false =>
    have hfetch := fetch_of_secure houtcome hplain
    exact ⟨hfetch.2.trans hrequests, place, problem, hfetch.1⟩
  | true =>
    rcases attempt_of_unreadable client (hplaintext hplain) true with
      ⟨hrequests', place', problem', houtcome'⟩
    have hfetch := fetch_of_plaintext houtcome hplain
    refine ⟨?_, place', problem', hfetch.outcome.trans houtcome'⟩
    rw [hfetch.requests, hrequests, hrequests']
    rfl

/-- **One request or two.**  Where servers answer directly, a fetch makes one request over HTTPS.  If that
    fails and plain text is allowed, it makes another one over HTTP for the same place.  Only the first
    goes to a server that need not prove who it is, and only if that is allowed.  A text that is not a
    URL under any scheme that may be used is asked for nowhere. -/
theorem fetch_of_direct (h : client.Direct) (t : Text) (allowance : Allowance) :
    (∀ target u, Url.Asked t "https" target u → u.host ≠ [] → u.Nameable →
      ∃ first, first.url = u ∧ Attempts t "https" target (!allowance.unverified) first ∧
        client.Continues t allowance target first) ∧
    ((¬ ∃ target u, Url.Asked t "https" target u) →
      (allowance.plaintext = true → ¬ ∃ target u, Url.Asked t "http" target u) →
        client.EndsUnread t allowance []) := by
  constructor
  · intro target u hu hhost hname
    exact exists_continues h allowance hu hhost hname
  · exact endsUnread_of_unreadable client

/-- A site with a page in plain text. -/
def servingPlaintext : Site := ({} : Site).add "example.com/a" "http" (.page 200 (Text.utf8 "page"))

theorem fetch_of_direct_plaintext :
    let client : Client := { config := { dialTimeout := defaultDialTimeout },
                             server := servingPlaintext.reply }
    client.Direct ∧
      ∃ first second, first.verified = false ∧ second.verified = true ∧
        client.EndsBy "example.com/a" .all [first, second] "http://example.com/a" second := by
  intro client
  have hdirect : client.Direct := direct_of_site rfl (by simp [servingPlaintext, Site.add])
  have hu : Url.Asked "example.com/a" "https" "https://example.com/a"
      ⟨"https", [], "example.com", none, "/a", none, none⟩ := ⟨by decide, by decide⟩
  have hu' : Url.Asked "example.com/a" "http" "http://example.com/a"
      ⟨"http", [], "example.com", none, "/a", none, none⟩ := ⟨by decide, by decide⟩
  rcases (fetch_of_direct hdirect "example.com/a" .all).1 _ _ hu (by decide)
    ⟨by decide, _, rfl⟩ with ⟨first, hfirst, hattempts, hcontinues⟩
  have hfailed : ¬ (client.server first).isSuccess = true := by
    show ¬ (servingPlaintext.reply first).isSuccess = true
    rw [Site.reply, hfirst]
    decide
  rcases hcontinues.plaintext hfailed rfl _ _ hu' (by decide) with ⟨second, -, hattempts', -, hends⟩
  exact ⟨hdirect, first, second, hattempts.verified, hattempts'.verified, hends⟩

/-! ## A URL that is too long for one scheme -/

/-- The longest path that a URL over HTTPS with a host of one letter may have. -/
def longSegment : Text := List.replicate 65526 (.char 'a')

theorem length_longSegment : longSegment.length = 65526 := List.length_replicate

theorem isPlain_longSegment : Url.IsPlain longSegment := by
  intro p hp
  rw [List.eq_of_mem_replicate hp]
  decide

theorem longSegment_ne_dots : longSegment ≠ "." ∧ longSegment ≠ ".." := by
  constructor
  all_goals
    intro h
    have hlength := congrArg List.length h
    rw [length_longSegment] at hlength
    exact absurd hlength (by decide)

theorem not_isControl_longPath : ∀ p ∈ CodePoint.char '/' :: longSegment, Url.isControl p = false := by
  rw [List.forall_mem_cons]
  refine ⟨by decide, ?_⟩
  intro p hp
  rw [List.eq_of_mem_replicate hp]
  decide

def longText (scheme server : Text) : Text :=
  scheme ++ .char ':' :: .char '/' :: .char '/' :: (server ++ .char '/' :: longSegment)

def longUrl (scheme : Text) (port : Option Int) : Url :=
  ⟨scheme, [], "x", port, .char '/' :: longSegment, none, none⟩

theorem length_longText (scheme server : Text) :
    (longText scheme server).length = scheme.length + server.length + 65530 := by
  have hlength : ∀ segment : Text,
      (scheme ++ .char ':' :: .char '/' :: .char '/' :: (server ++ .char '/' :: segment)).length =
        scheme.length + server.length + (segment.length + 4) := by
    intro segment
    simp only [List.length_append, List.length_cons]
    omega
  rw [longText, hlength, length_longSegment]

theorem encodeHost_longUrl : Url.encodeHost "x" = .ok "x" := by decide

theorem parse_longText {scheme server digits : Text} {port : Option Int} (hs : Url.IsScheme scheme)
    (hlength : scheme.length + server.length ≤ 6)
    (hpoints : ∀ p ∈ scheme ++ server, Url.isControl p = false)
    (hserver : ∀ p ∈ server, Url.endsServer p = false)
    (hauthority : Url.Authority.ofText server = ⟨[], "x", digits⟩)
    (hport : Url.readPort scheme digits = .ok port) :
    Url.parse (longText scheme server) = .ok (longUrl scheme port) := by
  have hcontrol : ∀ p ∈ longText scheme server, Url.isControl p = false := by
    have hmarks : ∀ p ∈ Text.ofString "://", Url.isControl p = false := by decide
    intro p hp
    rw [longText, List.mem_append] at hp
    rcases hp with hp | hp
    · exact hpoints p (List.mem_append_left _ hp)
    · rcases List.mem_append.mp (show p ∈ Text.ofString "://" ++ (server ++ _) from hp) with hp | hp
      · exact hmarks p hp
      · rcases List.mem_append.mp hp with hp | hp
        · exact hpoints p (List.mem_append_right _ hp)
        · exact not_isControl_longPath p hp
  rw [Url.parse_eq_ofParts (by rw [length_longText]; unfold Url.maxLength; omega) hcontrol, longText,
    isPlain_longSegment.ofText_rooted hs hserver]
  dsimp only
  rw [hauthority, isPlain_longSegment.ofParts_rooted longSegment_ne_dots hs encodeHost_longUrl hport]
  rfl

theorem withScheme_longUrl {scheme : Text} {port : Option Int}
    (hscheme : scheme = "https" ∨ scheme = "http") (hport : Url.readPort scheme "443" = .ok port) :
    (longUrl "h" (some 443)).withScheme scheme = .ok (longUrl scheme port) := by
  -- each part is checked by itself, and none is too long
  have hfits : Url.checkPart "scheme"
      (fun t => t.all Url.isSchemePoint && t.head?.all CodePoint.isLetter) scheme = none := by
    rcases hscheme with rfl | rfl
    all_goals decide
  have hpath : Url.checkPart "path" (Url.without "?#") (.char '/' :: longSegment) = none := by
    have hpoints : Url.without "?#" (.char '/' :: longSegment) = true := by
      rw [Url.without, List.all_cons, List.all_eq_true.mpr]
      · decide
      · intro p hp
        rw [List.eq_of_mem_replicate hp]
        decide
    rw [Url.checkPart, if_neg, Url.findControl_eq_none_iff.mpr not_isControl_longPath]
    · exact if_pos hpoints
    · rw [List.length_cons, length_longSegment]
      decide
  have hserver : Url.checkPart "authority" (Url.without "/?#") "x:443" = none := by decide
  have hauthority : (longUrl "h" (some 443)).authority = "x:443" := by decide
  have hmade : Url.ofParts ⟨scheme, "x:443", .char '/' :: longSegment, none, none⟩
      (Url.Authority.ofText "x:443") = .ok (longUrl scheme port) :=
    isPlain_longSegment.ofParts_rooted longSegment_ne_dots (Url.isScheme_of_eq hscheme)
      encodeHost_longUrl hport
  unfold Url.withScheme Url.assemble Url.parts
  rw [hauthority]
  simp only [longUrl, hfits, hserver, hpath]
  exact hmade

theorem toText_longUrl {scheme server : Text} {port : Option Int} (hs : Url.IsScheme scheme)
    (hauthority : (longUrl scheme port).authority = server) (hserver : server ≠ []) :
    (longUrl scheme port).toText = longText scheme server := by
  have hscheme : scheme ≠ [] := hs.ne_nil
  rw [Url.toText, hauthority]
  simp [longUrl, longText, Url.queryText, Url.fragmentText, hscheme, hserver]

theorem replaceScheme_longText {scheme server : Text} {port : Option Int}
    (hscheme : scheme = "https" ∨ scheme = "http") (hport : Url.readPort scheme "443" = .ok port)
    (hauthority : (longUrl scheme port).authority = server) (hserver : server ≠ []) :
    Url.replaceScheme (longText "h" "x:443") scheme = .ok (longText scheme server) := by
  have hurl : Text.isWithin "://" (longText "h" "x:443") = true :=
    Text.isWithin_append "://" "h" ("x:443" ++ .char '/' :: longSegment)
  have hparse : Url.parse (longText "h" "x:443") = .ok (longUrl "h" (some 443)) :=
    parse_longText ⟨by decide, by decide, by decide⟩ (by decide) (by decide) (by decide) rfl
      (by decide : Url.readPort "h" "443" = .ok (some 443))
  rw [Url.replaceScheme, if_pos hurl, hparse]
  show (Url.withScheme _ scheme >>= _) = _
  rw [withScheme_longUrl hscheme hport]
  exact congrArg Except.ok (toText_longUrl (Url.isScheme_of_eq hscheme) hauthority hserver)

/-- A fetch that fails over HTTPS may end there although plain text is allowed: a port that HTTPS
    implies and HTTP does not makes the second URL longer, and URLs may be too long. -/
theorem exists_fetch_without_second :
    ¬ ∀ (site : Site) (t target : Text) (u : Url) (allowance : Allowance),
      let client : Client := { config := { dialTimeout := defaultDialTimeout }, server := site.reply }
      site.detours = {} →
      (∀ place fault, (place, Route.fault fault) ∈ site.routes → fault.isMisuse = false) →
      Url.Asked t "https" target u → u.host ≠ [] → u.Nameable →
        ∃ first, first.url = u ∧
          (¬ (site.reply first).isSuccess = true → allowance.plaintext = true →
            ∃ second, (client.fetch t allowance).requests = [first, second] ∧
              second.url.scheme = "http" ∧ Url.SamePlace first.url second.url) := by
  intro h
  let client : Client := { config := { dialTimeout := defaultDialTimeout },
                           server := ({} : Site).reply }
  -- without the port that HTTPS implies, the URL is just short enough
  have hsecure : Url.Asked (longText "h" "x:443") "https" (longText "https" "x")
      (longUrl "https" none) := by
    constructor
    · have hport : Url.readPort "https" "443" = .ok none := by decide
      exact replaceScheme_longText (.inl rfl) hport (by decide) (by decide)
    · exact parse_longText Url.isScheme_https (by decide) (by decide) (by decide) rfl rfl
  -- with the port, it is longer than any URL that is read
  have hplain : ¬ ∃ target u, Url.Asked (longText "h" "x:443") "http" target u := by
    rintro ⟨target, u, hu⟩
    have hport : Url.readPort "http" "443" = .ok (some 443) := by decide
    have htarget : Url.replaceScheme (longText "h" "x:443") "http" = .ok (longText "http" "x:443") :=
      replaceScheme_longText (.inr rfl) hport (by decide) (by decide)
    have hparsed := hu.parsed
    rw [← Except.ok.inj (htarget.symm.trans hu.replaced), Url.parse, if_pos] at hparsed
    · cases hparsed
    · rw [length_longText]
      decide
  have hname : (longUrl "https" none).Nameable := ⟨by decide, _, rfl⟩
  have hhost : (longUrl "https" none).host ≠ [] := by decide
  have hcalm : ∀ place fault, (place, Route.fault fault) ∈ ({} : Site).routes →
      fault.isMisuse = false :=
    fun _ _ hmem => absurd hmem List.not_mem_nil
  have hdirect : client.Direct := direct_of_site (rfl : ({} : Site).detours = {}) hcalm
  have hfailed : ∀ r : Request, r.url = longUrl "https" none →
      ¬ (client.server r).isSuccess = true := by
    intro r hr hsuccess
    cases hsuccess
  rcases h {} _ _ _ .all rfl hcalm hsecure hhost hname with ⟨first, hfirst, hsecond⟩
  rcases hsecond (hfailed first hfirst) rfl with ⟨second, hrequests, -⟩
  rcases exists_continues hdirect .all hsecure hhost hname with
    ⟨only, honly, -, hcontinues⟩
  have hends := hcontinues.unread (hfailed only honly) rfl hplain
  cases hrequests.symm.trans hends.requests

end Client

end ImageDiscovery
