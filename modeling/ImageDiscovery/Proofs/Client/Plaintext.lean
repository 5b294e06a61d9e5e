import ImageDiscovery.Proofs.Client.Requests
import ImageDiscovery.Site

/-!
# Plain text — what a client that may not use it sends over HTTP

The permission to use plain text is about what a client asks for by itself.  Without it a client asks
for nothing over HTTP, but a redirect may lead there.  The request before the first one over HTTP is
not over HTTP then, and the location in the answer to it names the scheme.
-/

namespace ImageDiscovery

open Fetch

namespace Client

variable {client : Client} {allowance : Allowance}

/-- An exchange that the client began over HTTPS.  If the URL that it asked for has no host, the request
    has no scheme either. -/
structure BeginsSecure (client : Client) (allowance : Allowance) (first : Request)
    (rest : List Request) : Prop where
  exchange : IsExchange client.server client.config.followRedirects first rest
  asked : ∃ url, client.Asks allowance url first ∧ url.scheme = "https" ∧
    (first.url = url ∨ url.isRelative = true ∧ first.url.scheme = [])

/-- An exchange that the client began over HTTPS, up to and with `asked`; the answer to that leads to
    `next`, the first request over HTTP. -/
structure TurnsPlain (client : Client) (allowance : Allowance) (before : List Request)
    (asked next : Request) (after : List Request) : Prop where
  began : ∃ url first rest, before ++ [asked] = first :: rest ∧ client.Asks allowance url first ∧
    url.scheme = "https"
  secure : ∀ request ∈ before ++ [asked], request.url.scheme ≠ "http"
  plain : next.url.scheme = "http"
  chain : (before ++ asked :: next :: after).IsChain (Follows client.server)
  /-- Unless the URL that was asked for has no scheme, the location names the one of plain text. -/
  named : asked.url.scheme ≠ [] → ∃ status location body,
    client.server asked = .answer status (some location) body ∧ status ∈ redirectStatuses ∧
      Names location "http"

theorem exists_turn {p : Request → Prop} {first : Request} {rest before : List Request}
    {last : Request} (hfirst : ¬ p first) (hlast : p last) (h : first :: rest = before ++ [last]) :
    ∃ start asked next more, first :: rest = start ++ asked :: next :: more ∧
      (∀ q ∈ start ++ [asked], ¬ p q) ∧ p next := by
  induction rest generalizing first before with
  | nil =>
    -- one element cannot be both
    have hmem : last ∈ [first] := by
      rw [h]
      exact List.mem_append_right _ List.mem_cons_self
    exact absurd (List.mem_singleton.mp hmem ▸ hlast) hfirst
  | cons second rest ih =>
    by_cases hsecond : p second
    · exact ⟨[], first, second, rest, rfl, by simpa using hfirst, hsecond⟩
    · -- the turn is further on
      cases before with
      | nil => exact absurd h (by simp)
      | cons first' before =>
        rw [List.cons_append, List.cons.injEq] at h
        rcases ih hsecond h.2 with ⟨start, asked, next, more, hsplit, hnot, hnext⟩
        refine ⟨first :: start, asked, next, more, by rw [hsplit, List.cons_append], ?_, hnext⟩
        rw [List.cons_append, List.forall_mem_cons]
        exact ⟨hfirst, hnot⟩

theorem Asks.beginsSecure {url : Url} {first : Request} {rest : List Request}
    (h : client.Asks allowance url first) (hplain : allowance.plaintext = false)
    (hexchange : IsExchange client.server client.config.followRedirects first rest) :
    client.BeginsSecure allowance first rest := by
  have hurl : url.scheme = "https" := h.scheme.resolve_right fun hs => by
    rw [hplain] at hs
    exact nomatch hs.1
  refine ⟨hexchange, url, h, hurl, ?_⟩
  rcases h.made with ⟨headers, verified, -, hrequest⟩
  -- a URL without a host loses its scheme as well
  rcases (exists_make?_of_request hrequest).1 with hsame | ⟨hrelative, hlocal⟩
  · exact .inl hsame
  · exact .inr ⟨hrelative, Url.scheme_localPart hlocal⟩

theorem BeginsSecure.scheme {first : Request} {rest : List Request}
    (h : client.BeginsSecure allowance first rest) :
    first.url.scheme = "https" ∨ first.url.scheme = [] := by
  rcases h.asked with ⟨url, -, hurl, hsame | ⟨-, hnone⟩⟩
  · rw [hsame]
    exact .inl hurl
  · exact .inr hnone

theorem BeginsSecure.exists_turnsPlain {first r : Request} {start rest : List Request}
    (h : client.BeginsSecure allowance first rest) (hsplit : start ++ [r] = first :: rest)
    (hr : r.url.scheme = "http") :
    client.config.followRedirects = true ∧ ∃ before asked next after,
      start ++ [r] = before ++ asked :: next :: after ∧
        client.TurnsPlain allowance before asked next after := by
  have hscheme := h.scheme
  have hfirst : first.url.scheme ≠ "http" := by
    rcases hscheme with hs | hs
    all_goals
      rw [hs]
      decide
  have hproper : first.url.scheme ≠ [] → Url.IsScheme first.url.scheme := by
    intro hne
    rw [hscheme.resolve_right hne]
    exact Url.isScheme_https
  rcases exists_turn (p := fun q => q.url.scheme = "http") hfirst hr hsplit.symm with
    ⟨before, asked, next, after, hturn, hsecure, hnext⟩
  have hchain : (before ++ asked :: next :: after).IsChain (Follows client.server) :=
    hturn ▸ h.exchange.chain
  have hhop : Follows client.server asked next :=
    (List.isChain_cons_cons.mp hchain.right_of_append).1
  -- two requests at least
  have hrest : rest ≠ [] := by
    rintro rfl
    have hlength := congrArg List.length hturn
    simp only [List.length_append, List.length_cons, List.length_nil] at hlength
    omega
  refine ⟨h.exchange.follows_eq_true hrest, before, asked, next, after, hsplit.trans hturn, ?_,
    hsecure, hnext, hchain, ?_⟩
  · rcases h.asked with ⟨url, hasks, hurl, -⟩
    cases before with
    | nil =>
      rw [List.nil_append, List.cons.injEq] at hturn
      exact ⟨url, asked, [], rfl, hturn.1 ▸ hasks, hurl⟩
    | cons b before =>
      rw [List.cons_append, List.cons.injEq] at hturn
      exact ⟨url, b, before ++ [asked], rfl, hturn.1 ▸ hasks, hurl⟩
  · intro hne
    have hmem : asked ∈ first :: rest := by
      rw [hturn]
      exact List.mem_append_right _ List.mem_cons_self
    have hs := isScheme_of_chain h.exchange.chain hproper asked hmem hne
    have hasked : asked.url.scheme ≠ "http" :=
      hsecure asked (List.mem_append_right _ List.mem_cons_self)
    have hnamed := names_of_follows hhop hs fun e => hasked (e.trans hnext)
    rw [hnext] at hnamed
    exact hnamed

/-- **No plain text by itself.**  Whatever a client without the permission is told to do, each request
    ends an exchange that the client began over HTTPS.  If the request is over HTTP, redirects are followed,
    and one of them led from a request that is not over HTTP to one that is. -/
theorem plaintext_after_redirect {operation : Operation} (hplain : allowance.plaintext = false)
    {before after : List Request} {r : Request}
    (h : operation.requests client allowance = before ++ r :: after) :
    (∃ earlier start first rest, before = earlier ++ start ∧ start ++ [r] = first :: rest ∧
      client.BeginsSecure allowance first rest) ∧
      (r.url.scheme = "http" → client.config.followRedirects = true ∧
        ∃ earlier start asked next more,
          before ++ [r] = earlier ++ (start ++ asked :: next :: more) ∧
            client.TurnsPlain allowance start asked next more) := by
  rcases operation.exists_exchange h with
    ⟨earlier, exchange, url, first, rest, hbefore, hsplit, hasks, hexchange⟩
  have hbegins := hasks.beginsSecure hplain hexchange
  refine ⟨⟨earlier, exchange, first, rest, hbefore, hsplit, hbegins⟩, ?_⟩
  intro hr
  rcases hbegins.exists_turnsPlain hsplit hr with
    ⟨hfollows, start, asked, next, more, hturn, hturns⟩
  refine ⟨hfollows, earlier, start, asked, next, more, ?_, hturns⟩
  rw [hbefore, List.append_assoc, hturn]

/-- A site whose page is served over HTTP, where its readers are sent from HTTPS. -/
def sendingToPlaintext : Site :=
  (({} : Site).addDetour "https://example.com/a" ⟨302, some "http://example.com/b"⟩).add
    "example.com/b" "http" (.page 200 [])

/-- The request over HTTP that follows. -/
def plainRequest : Request where
  url := ⟨"http", [], "example.com", none, "/b", none, none⟩
  headers := (Headers.own "acdiscovery").set host "example.com"
  verified := true

theorem plaintext_after_redirect_once :
    let client : Client := { config := { dialTimeout := defaultDialTimeout },
                             server := sendingToPlaintext.reply }
    let operation : Operation := .fetch "https://example.com/a"
    let before := (operation.requests client .none).take 1
    Allowance.none.plaintext = false ∧
      operation.requests client .none = before ++ plainRequest :: [] ∧
      (∃ earlier start first rest, before = earlier ++ start ∧
        start ++ [plainRequest] = first :: rest ∧ client.BeginsSecure .none first rest) ∧
      plainRequest.url.scheme = "http" ∧
      ∃ earlier start asked next more,
        before ++ [plainRequest] = earlier ++ (start ++ asked :: next :: more) ∧
          client.TurnsPlain .none start asked next more := by
  intro client operation before
  have hplain : Allowance.none.plaintext = false := by decide
  have h : operation.requests client .none = before ++ plainRequest :: [] := by decide +kernel
  have hr : plainRequest.url.scheme = "http" := by decide
  rcases plaintext_after_redirect hplain h with ⟨hbegins, hturns⟩
  exact ⟨hplain, h, hbegins, hr, (hturns hr).2⟩

/-- The permission is not about redirects: without it a redirect still leads to plain text. -/
theorem exists_plaintext_without_permission :
    ¬ ∀ (site : Site) (hostHeaders : HostHeaders) (allowance : Allowance) (operation : Operation),
      allowance.plaintext = false →
        ∀ r ∈ operation.requests
            { hostHeaders, config := { dialTimeout := defaultDialTimeout }, server := site.reply }
            allowance,
          r.url.scheme ≠ "http" := by
  intro h
  have hall := h sendingToPlaintext {} .none (.fetch "https://example.com/a") (by decide)
  revert hall
  decide +kernel

end Client

end ImageDiscovery
