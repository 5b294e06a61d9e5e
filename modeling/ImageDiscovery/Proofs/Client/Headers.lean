import ImageDiscovery.Proofs.Client.Requests
import ImageDiscovery.Site

/-!
# Headers — which servers are told what was configured

The headers of an exchange are chosen once, for the URL that the client asks for.  Whatever a request
carries besides its host and the client's own headers was configured for that URL, or holds the credentials
in it.
Redirects take the headers along to other servers too, except for cookies; what authorizes a request
goes no further than its origin and the secure form of that.
-/

namespace ImageDiscovery

open Fetch

/-- The entry for the host and port of a URL or, if there is none, that for its host gives a header.
    Requests have the names of headers in lower case. -/
def HostHeaders.Gives (hostHeaders : HostHeaders) (url : Url) (name value : Text) : Prop :=
  ∃ hostName entry written, url.hostName = .ok hostName ∧
    (hostHeaders.get? url.netloc).or (hostHeaders.get? hostName) = some entry ∧
    (written, value) ∈ entry.toList ∧ written.asciiLower = name

/-- Some entry gives a header, whichever server it is for. -/
def HostHeaders.Offers (hostHeaders : HostHeaders) (name value : Text) : Prop :=
  ∃ server entry written, hostHeaders.get? server = some entry ∧
    (written, value) ∈ entry.toList ∧ written.asciiLower = name

/-! ## The first request -/

theorem Fetch.Headers.exists_written {configured : Mapping Text} {headers : Headers}
    {name value : Text} (h : Headers.ofConfigured configured = .ok headers)
    (hmem : (name, value) ∈ headers) :
    ∃ written, (written, value) ∈ configured.toList ∧ written.asciiLower = name := by
  rcases exists_of_mem_mapM h hmem with ⟨⟨written, value'⟩, hwritten, hentry⟩
  dsimp only at hentry
  split at hentry
  · exact nomatch hentry
  · split at hentry
    · exact nomatch hentry
    · have heq := Except.ok.inj hentry
      rw [Prod.mk.injEq] at heq
      exact ⟨written, heq.2 ▸ hwritten, heq.1⟩

theorem mem_headers_of_make? {url : Url} {agent : Text} {configured : Mapping Text}
    {verified : Bool} {request : Request} {name value : Text}
    (h : Request.make? url agent configured verified = .ok request)
    (hmem : (name, value) ∈ request.headers) (hown : (name, value) ∉ Headers.own agent)
    (hhost : name ≠ host) :
    (∃ written, (written, value) ∈ configured.toList ∧ written.asciiLower = name) ∨
      name = authorization ∧ ∃ user password, credentials? url = some (user, password) ∧
        value = basic user password := by
  unfold Request.make? at h
  dsimp only at h
  split at h
  · exact nomatch h
  rcases exists_of_bind_eq_ok h with ⟨headers, hheaders, h⟩
  rw [← Except.ok.inj h] at hmem
  -- a header from before the credentials are set is a configured one
  have hconfigured : (name, value) ∈ (if (headers.onTopOf (.own agent)).has host ||
      url.host.isEmpty then headers.onTopOf (.own agent)
      else (headers.onTopOf (.own agent)).set host url.netloc) →
      ∃ written, (written, value) ∈ configured.toList ∧ written.asciiLower = name := by
    intro hbefore
    have hmixed : (name, value) ∈ headers.onTopOf (.own agent) := by
      split at hbefore
      · exact hbefore
      · exact Headers.mem_set_of_ne hhost hbefore
    rw [Headers.onTopOf, List.mem_append, List.mem_filter] at hmixed
    rcases hmixed with hclient | hmixed
    · exact absurd hclient.1 hown
    · exact Headers.exists_written hheaders hmixed
  dsimp only at hmem
  split at hmem
  · rename_i user password hcredentials
    by_cases hname : name = authorization
    · right
      rw [Headers.set, List.mem_append, List.mem_singleton, Prod.mk.injEq, Headers.mem_without]
        at hmem
      rcases hmem with hother | hset
      · exact absurd hname hother.2
      · exact ⟨hname, user, password, hcredentials, hset.2⟩
    · exact .inl (hconfigured (Headers.mem_set_of_ne hname hmem))
  · exact .inl (hconfigured hmem)

namespace Client

variable {client : Client} {allowance : Allowance} {name value : Text}

theorem gives_of_headersFor {url : Url} {headers : Mapping Text} {written : Text}
    (h : client.headersFor url = .ok headers) (hmem : (written, value) ∈ headers.toList)
    (hname : written.asciiLower = name) : client.hostHeaders.Gives url name value := by
  unfold headersFor at h
  dsimp only at h
  split at h
  · exact nomatch h
  · rcases exists_of_bind_eq_ok h with ⟨hostName, hhost, h⟩
    rw [← Except.ok.inj h] at hmem
    have hhost := eq_ok_of_mapError_eq_ok hhost
    -- the entry with the port comes first, then the one for the host; without both there is no header
    cases hport : client.hostHeaders.get? url.netloc with
    | some entry =>
      rw [hport] at hmem
      exact ⟨hostName, entry, written, hhost, by rw [hport]; rfl, hmem, hname⟩
    | none =>
      rw [hport] at hmem
      cases hentry : client.hostHeaders.get? hostName with
      | some entry =>
        rw [hentry] at hmem
        exact ⟨hostName, entry, written, hhost, by rw [hport, hentry]; rfl, hmem, hname⟩
      | none =>
        rw [hentry] at hmem
        exact nomatch hmem

/-- How a header comes to be on the last request of an exchange. -/
structure Carries (client : Client) (allowance : Allowance) (first : Request) (rest : List Request)
    (name value : Text) : Prop where
  exchange : IsExchange client.server client.config.followRedirects first rest
  /-- It was configured for the URL that the client asked for, or holds the credentials of that. -/
  chosen : ∃ url, client.Asks allowance url first ∧
    (first.url = url ∨ url.isRelative = true ∧ url.localPart = .ok first.url) ∧
    (client.hostHeaders.Gives url name value ∨
      name = authorization ∧ ∃ user password, credentials? first.url = some (user, password) ∧
        value = basic user password)
  /-- Cookies are not on redirected requests. -/
  cookies : rest ≠ [] → name ≠ cookie
  /-- What authorizes a request stays with its origin. -/
  authorizes : name = authorization →
    (first :: rest).IsChain fun last next => StaysWith last.url next.url

/-- **Where headers go.**  Whatever a client is told to do, each request ends an exchange, and each
    header of it that is neither the host nor one of the client's own was chosen for the URL from which the
    exchange began.  If redirects are not followed, that request is the only one of its exchange. -/
theorem carries_of_mem_headers {operation : Operation} {before after : List Request} {r : Request}
    (h : operation.requests client allowance = before ++ r :: after)
    (hmem : (name, value) ∈ r.headers) (hown : (name, value) ∉ Headers.own client.config.userAgent)
    (hhost : name ≠ host) :
    ∃ earlier start first rest, before = earlier ++ start ∧ start ++ [r] = first :: rest ∧
      client.Carries allowance first rest name value := by
  rcases operation.exists_exchange h with
    ⟨earlier, start, url, first, rest, hbefore, hsplit, hasks, hexchange⟩
  rcases mem_headers_of_chain hexchange.chain hsplit hmem hhost with ⟨hfirst, hcookie, hstays⟩
  rcases hasks.made with ⟨headers, verified, hheaders, hrequest⟩
  rcases exists_make?_of_request hrequest with ⟨hurl, hmake⟩
  refine ⟨earlier, start, first, rest, hbefore, hsplit, hexchange, ⟨url, hasks, hurl, ?_⟩, hcookie,
    hstays⟩
  apply (mem_headers_of_make? hmake hfirst hown hhost).imp_left
  rintro ⟨written, hwritten, hname⟩
  exact gives_of_headersFor hheaders hwritten hname

/-- A client with a token for one server, which sends its readers on to another one. -/
def sendingToOther : Client where
  hostHeaders := ({} : HostHeaders).add ⟨"example.com", "X-Token", "secret"⟩
  config := { dialTimeout := defaultDialTimeout }
  server := (({} : Site).addDetour "https://example.com/a" ⟨302, some "https://other.org/b"⟩).reply

/-- The request to that other server. -/
def otherRequest : Request where
  url := ⟨"https", [], "other.org", none, "/b", none, none⟩
  headers := ((Headers.own "acdiscovery").set "x-token" "secret").set host "other.org"
  verified := true

theorem carries_of_mem_headers_other :
    let operation : Operation := .fetch "https://example.com/a"
    let before := (operation.requests sendingToOther .none).take 1
    operation.requests sendingToOther .none = before ++ otherRequest :: [] ∧
      (("x-token", "secret") : Text × Text) ∈ otherRequest.headers ∧
      (("x-token", "secret") : Text × Text) ∉ Headers.own sendingToOther.config.userAgent ∧
      ("x-token" : Text) ≠ host ∧
      ∃ earlier start first rest, before = earlier ++ start ∧
        start ++ [otherRequest] = first :: rest ∧
        sendingToOther.Carries .none first rest "x-token" "secret" := by
  intro operation before
  have h : operation.requests sendingToOther .none = before ++ otherRequest :: [] := by
    decide +kernel
  have hmem : (("x-token", "secret") : Text × Text) ∈ otherRequest.headers := by decide
  have hown : (("x-token", "secret") : Text × Text) ∉ Headers.own sendingToOther.config.userAgent := by
    decide
  have hhost : ("x-token" : Text) ≠ host := by decide
  exact ⟨h, hmem, hown, hhost, carries_of_mem_headers h hmem hown hhost⟩

/-- A redirect takes a configured header to a server for which it was not configured. -/
theorem exists_header_for_other :
    ¬ ∀ (site : Site) (hostHeaders : HostHeaders) (allowance : Allowance) (operation : Operation),
      let client : Client :=
        { hostHeaders, config := { dialTimeout := defaultDialTimeout }, server := site.reply }
      ∀ r ∈ operation.requests client allowance, ∀ name value, hostHeaders.Offers name value →
        (name, value) ∉ Headers.own client.config.userAgent → name ≠ host →
        (name, value) ∈ r.headers → hostHeaders.Gives r.url name value := by
  intro h
  have hoffers : sendingToOther.hostHeaders.Offers "x-token" "secret" :=
    ⟨"example.com", ({} : Mapping Text).insert "X-Token" "secret", "X-Token", by decide⟩
  have hgives := h (({} : Site).addDetour "https://example.com/a" ⟨302, some "https://other.org/b"⟩)
    sendingToOther.hostHeaders .none (.fetch "https://example.com/a") otherRequest (by decide +kernel)
    "x-token" "secret" hoffers (by decide) (by decide) (by decide)
  rcases hgives with ⟨hostName, entry, written, hhost, hentry, -, -⟩
  have hname : hostName = "other.org" := (Except.ok.inj hhost).symm
  have hnone : (sendingToOther.hostHeaders.get? otherRequest.url.netloc).or
      (sendingToOther.hostHeaders.get? "other.org") = none := by
    decide +kernel
  rw [hname, hnone] at hentry
  exact nomatch hentry

end Client

end ImageDiscovery
