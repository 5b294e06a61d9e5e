import ImageDiscovery.Proofs.Client.Asking
import ImageDiscovery.Proofs.Fetch.Alike
import ImageDiscovery.Proofs.Fetch.Direct
import ImageDiscovery.Proofs.Log.Secrets
import ImageDiscovery.Proofs.Url.Masked

/-!
# Likeness — two fetches that a log does not tell apart

Two clients may differ in the values of secret headers, and two URLs in who asks.  What either fetch logs
depends on the texts and URLs of it and on the replies of the servers.  A likeness says which texts and
URLs are taken for the same, and what is seen of a record then; fetches of texts that are alike are seen
alike.
-/

namespace ImageDiscovery

open Fetch

namespace Url

/-- Two URLs that are asked for in the same place of the same server. -/
structure SameServer (u v : Url) : Prop extends SamePlace u v where
  scheme : u.scheme = v.scheme
  port : u.port = v.port
  kind : tellsKind u.toText = tellsKind v.toText

namespace SameServer

variable {u v : Url}

theorem refl (u : Url) : SameServer u u := ⟨⟨rfl, rfl, rfl⟩, rfl, rfl, rfl⟩

theorem netloc (h : SameServer u v) : u.netloc = v.netloc := by
  rw [netloc_eq, netloc_eq, h.host, h.port]

theorem hostName (h : SameServer u v) : u.hostName = v.hostName := by
  rw [Url.hostName, Url.hostName, h.host]

theorem isRelative (h : SameServer u v) : u.isRelative = v.isRelative := by
  rw [Url.isRelative, Url.isRelative, h.scheme, h.host]

theorem localPart (h : SameServer u v) : u.localPart = v.localPart := by
  rw [Url.localPart, Url.localPart, h.path, h.query]

theorem place (h : SameServer u v) : Place.ofUrl u = Place.ofUrl v := by
  rw [Place.ofUrl, Place.ofUrl, h.scheme, h.host, h.hostName, pathName, pathName, h.path]

end SameServer

theorem SameButPassword.sameServer {user : Text} {u v : Url} (h : SameButPassword user u v)
    (hs : IsScheme u.scheme) : SameServer u v :=
  ⟨⟨h.host, h.path, h.query⟩, h.scheme, h.port, by
    rw [tellsKind_toText hs, tellsKind_toText (h.scheme ▸ hs)]⟩

end Url

/-! ## Clients and servers -/

/-- Two clients that differ only in the values of secret headers. -/
structure Client.SameButSecrets (client client' : Client) : Prop where
  headers : client.hostHeaders.Alike (fun _ headers headers' => headers.Alike Log.SecretAlike headers')
    client'.hostHeaders
  config : client.config = client'.config
  server : client.server = client'.server
  environment : client.environment = client'.environment

/-- A server that gives each place one reply. -/
def Fetch.ServesPlaces (server : Server) : Prop :=
  ∀ r s : Request, Place.ofUrl r.url = Place.ofUrl s.url → server r = server s

theorem Site.servesPlaces (site : Site) : ServesPlaces site.reply := by
  intro r s hplace
  rw [reply, reply, hplace]

/-! ## Likenesses -/

/-- Failures of one kind, with texts in the place of their URLs that are alike. -/
inductive FetchError.Alike (texts : Text → Text → Prop) : FetchError → FetchError → Prop where
  | badStatus {s t : Text} (h : texts s t) (status : Int) :
    Alike texts (.badStatus s status) (.badStatus t status)
  | connection {s t : Text} (h : texts s t) (fault : TransportFault) :
    Alike texts (.connection s fault) (.connection t fault)

theorem FetchError.alike_refl {texts : Text → Text → Prop} (h : ∀ t, texts t t) (e : FetchError) :
    e.Alike texts e := by
  cases e with
  | badStatus url status => exact .badStatus (h url) status
  | connection url fault => exact .connection (h url) fault

/-- What is seen of records, and which texts and URLs are alike then. -/
structure Likeness where
  view : Log.Record → Log.Record
  texts : Text → Text → Prop
  urls : Url → Url → Prop
  texts_refl : ∀ t, texts t t
  urls_refl : ∀ u, urls u u
  masked : ∀ {s t}, texts s t → Url.masked s = Url.masked t
  written : ∀ {u v}, urls u v → texts u.toText v.toText
  server : ∀ {u v}, urls u v → Url.SameServer u v
  fallback : ∀ {e f}, FetchError.Alike texts e f →
    view (Client.fallbackRecord e) = view (Client.fallbackRecord f)

namespace Likeness

variable (likeness : Likeness)

structure Answers (a b : Answer) : Prop where
  url : likeness.urls a.url b.url
  status : a.status = b.status
  body : a.body = b.body

structure Documents (d e : Document) : Prop where
  url : likeness.texts d.url e.url
  body : d.body = e.body

/-- Requests for URLs that are alike come to answers that are alike. -/
def Exchanges (server : Server) : Prop :=
  ∀ (follows : Bool) (r s : Request), likeness.urls r.url s.url →
    Run.Alike likeness.view Eq likeness.Answers (exchange server follows r) (exchange server follows s)

/-- Texts that are asked for under a scheme alike. -/
inductive Targets (scheme : Text) : Text → Text → Prop where
  | same (t : Text) : Targets scheme t t
  | asked {s t target target' : Text} {u v : Url} (hs : Url.Asked s scheme target u)
    (ht : Url.Asked t scheme target' v) (htexts : likeness.texts target target')
    (hurls : likeness.urls u v) : Targets scheme s t

end Likeness

/-! ## One exchange -/

namespace Fetch

variable {likeness : Likeness} {server : Server}

/-- Both answers are the reply to either request. -/
theorem alike_send (h : ServesPlaces server) {r s : Request} (hurl : likeness.urls r.url s.url) :
    Run.Alike likeness.view Eq
      (fun a b => likeness.Answers a b ∧ a.location = b.location ∧
        server s = .answer b.status b.location b.body)
      (send server r) (send server s) := by
  apply Run.Alike.bind (Run.alike_sent r s)
  rintro - - -
  have hsame := likeness.server hurl
  have hreply := h r s hsame.place
  rw [hreply]
  cases hanswer : server s with
  | fault fault =>
    rw [receive, receive]
    by_cases hmisuse : fault.isMisuse = true
    · rw [if_pos hmisuse]
      exact Run.alike_breakdown _ _
    · rw [if_neg hmisuse]
      exact Run.alike_fail rfl
  | answer status location body =>
    rw [receive, receive, ← hsame.kind]
    cases location.bind Text.notAscii with
    | some problem => exact Run.alike_breakdown _ _
    | none =>
      by_cases hkind : tellsKind r.url.toText = true
      · rw [if_pos hkind, if_pos hkind]
        exact Run.alike_pure ⟨⟨hurl, rfl, rfl⟩, rfl, rfl⟩
      · rw [if_neg hkind, if_neg hkind]
        exact Run.alike_breakdown _ _

theorem exchanges_of_straight (h : ServesPlaces server) (hstraight : NeverRedirects server) :
    likeness.Exchanges server := by
  intro follows r s hurl
  apply Run.Alike.bind (alike_send h hurl)
  rintro a b ⟨hanswers, hlocation, hanswer⟩
  have hb : b.location = none := hstraight s _ _ _ hanswer
  -- without a location the answer is the last one
  have hlast : ∀ {answer : Answer}, answer.location = none → answer.redirect? = none := by
    intro answer hnone
    rw [Answer.redirect?, hnone]
    exact ite_self _
  rw [hlast (hlocation.trans hb), hlast hb]
  exact Run.alike_pure hanswers

/-! ## Redirects -/

theorem alike_redirectHeaders {r s : Request} (hurl : r.url = s.url) (url : Url) :
    EndsAlike Eq (fun _ _ => True) (redirectHeaders r url) (redirectHeaders s url) := by
  have hsame : ∀ x : Except (Failure TransportFault) Origin, EndsAlike Eq Eq x x :=
    fun x => .refl (fun _ => rfl) (fun _ => rfl) x
  rw [redirectHeaders, redirectHeaders, hurl]
  apply EndsAlike.bind (hsame _)
  rintro next - rfl
  apply EndsAlike.bind (hsame _)
  rintro last - rfl
  dsimp only
  by_cases horigin : next = last
  · rw [if_pos horigin, if_pos horigin]
    exact .ok trivial
  · rw [if_neg horigin, if_neg horigin]
    cases url.netloc.notAscii with
    | some problem => exact .breakdown _ _
    | none => exact .ok trivial

/-- Where a redirect leads depends on nothing but the URL that was asked for. -/
theorem alike_redirected {r s : Request} (hurl : r.url = s.url) (location : Text) :
    EndsAlike Eq (fun r s => r.url = s.url) (r.redirected location) (s.redirected location) := by
  rw [Request.redirected, Request.redirected, hurl]
  apply EndsAlike.bind (.refl (fun _ => rfl) (fun _ => rfl) _)
  rintro url - rfl
  apply EndsAlike.bind (alike_redirectHeaders hurl url)
  exact fun _ _ _ => .ok rfl

section

variable (h : ServesPlaces server) (hexact : ∀ u v, likeness.urls u v → u = v)
include h hexact

theorem alike_exchangeStep {next : Request → Run TransportFault Answer}
    (hnext : ∀ r s, likeness.urls r.url s.url →
      Run.Alike likeness.view Eq likeness.Answers (next r) (next s))
    (follows : Bool) {r s : Request} (hurl : likeness.urls r.url s.url) :
    Run.Alike likeness.view Eq likeness.Answers (exchangeStep server follows next r)
      (exchangeStep server follows next s) := by
  apply Run.Alike.bind (alike_send h hurl)
  rintro a b ⟨hanswers, hlocation, -⟩
  have hredirect : a.redirect? = b.redirect? := by
    rw [Answer.redirect?, Answer.redirect?, hanswers.status, hlocation]
  rw [hredirect]
  cases b.redirect? with
  | none => exact Run.alike_pure hanswers
  | some location =>
    apply Run.Alike.bind (Run.alike_ofExcept (alike_redirected (hexact _ _ hurl) location))
    intro r' s' hurl'
    cases follows with
    | false => exact Run.alike_pure hanswers
    | true => exact hnext r' s' (hurl' ▸ likeness.urls_refl _)

/-- URLs that are the same lead to the same redirects. -/
theorem exchanges_of_exact : likeness.Exchanges server := by
  intro follows
  have hwithin : ∀ left (r s : Request), likeness.urls r.url s.url →
      Run.Alike likeness.view Eq likeness.Answers (exchangeWithin server follows left r)
        (exchangeWithin server follows left s) := by
    intro left
    induction left with
    | zero =>
      intro r s hurl
      exact alike_exchangeStep h hexact (fun _ _ _ => Run.alike_fail rfl) follows hurl
    | succ left ih =>
      intro r s hurl
      exact alike_exchangeStep h hexact ih follows hurl
  exact hwithin maxRedirects

end

end Fetch

/-! ## One attempt -/

namespace Client

variable {likeness : Likeness} {client client' : Client}

section

variable (h : client.SameButSecrets client')
include h

theorem alike_headersFor {u v : Url} (hurl : Url.SameServer u v) :
    EndsAlike (ε := TransportFault) Eq (fun headers headers' => headers.Alike Log.SecretAlike headers')
      ((client.headersFor u).mapError .breakdown) ((client'.headersFor v).mapError .breakdown) := by
  rw [headersFor, headersFor, ← hurl.netloc, ← hurl.hostName]
  cases u.netloc.notAscii with
  | some problem => exact .breakdown _ _
  | none =>
    cases u.hostName with
    | error problem => exact .breakdown _ _
    | ok name =>
      apply EndsAlike.ok
      have hempty : ({} : Mapping Text).Alike Log.SecretAlike {} := List.Forall₂.nil
      -- an entry for the host and its port goes before one for the host
      exact h.headers.get?_getD u.netloc (h.headers.get?_getD name hempty)

theorem attemptRecord_eq {target target' : Text} {headers headers' : Mapping Text}
    (hdebug : Log.debugMode client.environment = false) (htargets : likeness.texts target target')
    (hheaders : headers.Alike Log.SecretAlike headers') (verified : Bool) :
    client.attemptRecord target verified headers = client'.attemptRecord target' verified headers' := by
  rw [attemptRecord, attemptRecord, likeness.masked htargets, ← h.environment,
    Log.redact_eq_of_alike hdebug hheaders]

theorem alike_request {u v : Url} {headers headers' : Mapping Text} (hurl : likeness.urls u v)
    (hheaders : headers.Alike Log.SecretAlike headers') (verified : Bool) :
    EndsAlike Eq (fun r s => likeness.urls r.url s.url) (client.request u headers verified)
      (client'.request v headers' verified) := by
  have hmake : ∀ {u v : Url}, likeness.urls u v → EndsAlike (ε := TransportFault) Eq
      (fun r s => likeness.urls r.url s.url)
      ((Request.make? u client.config.userAgent headers verified).mapError fun problem =>
        .breakdown (.unencodable problem))
      ((Request.make? v client.config.userAgent headers' verified).mapError fun problem =>
        .breakdown (.unencodable problem)) := by
    intro u v hurl
    apply EndsAlike.of_isOk
    · rw [isOk_make?, isOk_make?, Headers.isOk_ofConfigured_of_alike hheaders]
    · intro r s hr hs
      rw [url_of_make? hr, url_of_make? hs]
      exact hurl
  have hsame := likeness.server hurl
  rw [request, request, ← h.config, ← hsame.isRelative, ← hsame.localPart]
  cases u.isRelative with
  | false => exact hmake hurl
  | true =>
    cases u.localPart with
    | error problem => exact .expected rfl
    | ok named => exact hmake (likeness.urls_refl named)

theorem alike_ask (hserver : likeness.Exchanges client.server)
    (hdebug : Log.debugMode client.environment = false) {target target' : Text} {u v : Url}
    (htargets : likeness.texts target target') (hurl : likeness.urls u v) (verified : Bool) :
    Run.Alike likeness.view Eq likeness.Answers (client.ask target u verified)
      (client'.ask target' v verified) := by
  apply Run.Alike.bind (Run.alike_ofExcept (alike_headersFor h (likeness.server hurl)))
  intro headers headers' hheaders
  rw [attemptRecord_eq h hdebug htargets hheaders]
  apply Run.Alike.told_bind rfl
  apply Run.Alike.bind (Run.alike_ofExcept (alike_request h hurl hheaders verified))
  intro r s hurls
  rw [← h.server, ← h.config]
  exact hserver _ r s hurls

omit h in
theorem alike_documentOf {target target' : Text} {a b : Answer}
    (htargets : likeness.texts target target') (hanswers : likeness.Answers a b) :
    Run.Alike likeness.view (FetchError.Alike likeness.texts) likeness.Documents (documentOf target a)
      (documentOf target' b) := by
  have hsuccess : a.isSuccess = b.isSuccess := by
    rw [Answer.isSuccess, Answer.isSuccess, hanswers.status]
  rw [documentOf, documentOf, ← hsuccess, hanswers.status]
  split
  · exact Run.alike_pure ⟨likeness.written hanswers.url, hanswers.body⟩
  · exact Run.alike_fail (.badStatus htargets _)

theorem alike_attempt (hserver : likeness.Exchanges client.server)
    (hdebug : Log.debugMode client.environment = false) {s t scheme : Text}
    (htexts : likeness.Targets scheme s t) (verified : Bool) :
    Run.Alike likeness.view (FetchError.Alike likeness.texts) likeness.Documents
      (client.attempt s scheme verified) (client'.attempt t scheme verified) := by
  have hasked : ∀ {target target' : Text} {u v : Url}, likeness.texts target target' →
      likeness.urls u v → Run.Alike likeness.view (FetchError.Alike likeness.texts) likeness.Documents
        ((client.ask target u verified).mapError (.connection target) >>= documentOf target)
        ((client'.ask target' v verified).mapError (.connection target') >>= documentOf target') := by
    intro target target' u v htargets hurls
    have hask := alike_ask h hserver hdebug htargets hurls verified
    apply Run.Alike.bind (hask.mapError ?_)
    · exact fun a b => alike_documentOf htargets
    · rintro fault - rfl
      exact .connection htargets fault
  cases htexts with
  | same =>
    -- a text that cannot be asked for fails in the same way
    have hsame : ∀ {α : Type} (x : Except (Failure FetchError) α),
        EndsAlike (FetchError.Alike likeness.texts) Eq x x :=
      fun x => .refl (FetchError.alike_refl likeness.texts_refl) (fun _ => rfl) x
    apply Run.Alike.bind (Run.alike_ofExcept (hsame _))
    rintro target - rfl
    apply Run.Alike.bind (Run.alike_ofExcept (hsame _))
    rintro u - rfl
    exact hasked (likeness.texts_refl target) (likeness.urls_refl u)
  | asked hs ht htargets hurls =>
    rw [attempt_of_asked hs, attempt_of_asked ht]
    exact hasked htargets hurls

/-- **Fetches alike.**  Texts that are asked for alike are fetched alike, by clients that differ in secret
    headers. -/
theorem alike_fetch (hserver : likeness.Exchanges client.server)
    (hdebug : Log.debugMode client.environment = false) {s t : Text} {allowance : Allowance}
    (hsecure : likeness.Targets "https" s t)
    (hplain : allowance.plaintext = true → likeness.Targets "http" s t) :
    Run.Alike likeness.view (FetchError.Alike likeness.texts) likeness.Documents
      (client.fetch s allowance) (client'.fetch t allowance) := by
  apply Run.Alike.either (alike_attempt h hserver hdebug hsecure _)
  · intro e f herrors
    by_cases hallowed : allowance.plaintext = true
    · rw [if_pos hallowed, if_pos hallowed]
      apply Run.Alike.told_bind (likeness.fallback herrors)
      exact alike_attempt h hserver hdebug (hplain hallowed) true
    · rw [if_neg hallowed, if_neg hallowed]
      exact Run.alike_fail herrors
  · exact fun d e => Run.alike_pure

end

end Client

end ImageDiscovery
