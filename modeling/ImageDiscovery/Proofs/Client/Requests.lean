import ImageDiscovery.Proofs.Fetch.Chain
import ImageDiscovery.Proofs.Fetch.Run
import ImageDiscovery.Proofs.Url.Scheme
import ImageDiscovery.Resolution

/-!
# Requests — how a client comes to make them

Whatever a client is told to do, the requests that it makes are exchanges, one after another.  Each
begins with a request that the client makes by itself, over HTTPS or, if that is allowed, over HTTP;
the other requests of an exchange are redirects that were followed.
-/

namespace ImageDiscovery

open Fetch

/-! ## Requests in parts -/

/-- Requests that come in parts, each of them of some form. -/
inductive MadeOf (part : List Request → Prop) : List Request → Prop where
  | nil : MadeOf part []
  | append {first rest : List Request} : part first → MadeOf part rest → MadeOf part (first ++ rest)

section

variable {part : List Request → Prop}

theorem MadeOf.of_part {requests : List Request} (h : part requests) : MadeOf part requests := by
  rw [← List.append_nil requests]
  exact .append h .nil

theorem MadeOf.concat {xs ys : List Request} (hx : MadeOf part xs) (hy : MadeOf part ys) :
    MadeOf part (xs ++ ys) := by
  induction hx with
  | nil => exact hy
  | append hfirst _ ih =>
    rw [List.append_assoc]
    exact .append hfirst ih

/-- Each request is in some part. -/
theorem MadeOf.exists_part {requests : List Request} (h : MadeOf part requests)
    {before after : List Request} {r : Request} (heq : requests = before ++ r :: after) :
    ∃ earlier start rest, before = earlier ++ start ∧ part (start ++ r :: rest) := by
  induction h generalizing before with
  | nil => exact absurd heq (by simp)
  | @append first others hfirst _ ih =>
    rcases List.append_eq_append_iff.mp heq with ⟨between, hbefore, hothers⟩ | ⟨between, hfirst', hr⟩
    · -- the request is behind the first part
      rcases ih hothers with ⟨earlier, start, rest, hbetween, hpart⟩
      exact ⟨first ++ earlier, start, rest, by rw [hbefore, hbetween, List.append_assoc], hpart⟩
    · cases between with
      | nil =>
        -- the first part ends just before the request
        rw [List.append_nil] at hfirst'
        have hothers : others = [] ++ r :: after := hr.symm
        rcases ih hothers with ⟨earlier, start, rest, hbetween, hpart⟩
        rcases List.append_eq_nil_iff.mp hbetween.symm with ⟨rfl, rfl⟩
        exact ⟨before, [], rest, (List.append_nil _).symm, hpart⟩
      | cons r' between =>
        rw [List.cons_append, List.cons.injEq] at hr
        rw [hfirst', ← hr.1] at hfirst
        exact ⟨[], before, between, rfl, hfirst⟩

namespace Run

variable {ε ε' α β : Type}

theorem madeOf_bind {x : Run ε α} {f : α → Run ε β} (hx : MadeOf part x.requests)
    (hf : ∀ a, MadeOf part (f a).requests) : MadeOf part (x >>= f).requests := by
  rw [requests_bind]
  cases x.outcome with
  | ok a => exact hx.concat (hf a)
  | error e => exact hx.concat .nil

theorem madeOf_ofExcept_bind {x : Except (Failure ε) α} {f : α → Run ε β}
    (hf : ∀ a, x = .ok a → MadeOf part (f a).requests) :
    MadeOf part (ofExcept x >>= f).requests := by
  cases x with
  | ok a => exact hf a rfl
  | error e => exact .nil

theorem madeOf_either {x : Run ε α} {onError : ε → Run ε' β} {onValue : α → Run ε' β}
    (hx : MadeOf part x.requests) (herror : ∀ e, MadeOf part (onError e).requests)
    (hvalue : ∀ a, MadeOf part (onValue a).requests) :
    MadeOf part (x.either onError onValue).requests := by
  cases h : x.outcome with
  | ok a =>
    rw [requests_either_of_ok h]
    exact hx.concat (hvalue a)
  | error failure =>
    cases failure with
    | expected e =>
      rw [requests_either_of_expected h]
      exact hx.concat (herror e)
    | breakdown cause =>
      rw [requests_either_of_breakdown h]
      exact hx

theorem madeOf_mapError {x : Run ε α} (hx : MadeOf part x.requests) (f : ε → ε') :
    MadeOf part (x.mapError f).requests :=
  madeOf_either hx (fun _ => .nil) fun _ => .nil

end Run

end

namespace Client

/-! ## What a client asks for by itself -/

/-- A client asks for a URL over HTTPS, or over HTTP if that is allowed, and the request carries the
    headers for that URL. -/
structure Asks (client : Client) (allowance : Allowance) (url : Url) (request : Request) : Prop where
  scheme : url.scheme = "https" ∨ allowance.plaintext = true ∧ url.scheme = "http"
  made : ∃ headers verified, client.headersFor url = .ok headers ∧
    client.request url headers verified = .ok request

theorem url_of_make? {url : Url} {agent : Text} {configured : Mapping Text} {verified : Bool}
    {request : Request} (h : Request.make? url agent configured verified = .ok request) :
    request.url = url := by
  unfold Request.make? at h
  dsimp only at h
  split at h
  · exact nomatch h
  · rcases exists_of_bind_eq_ok h with ⟨headers, -, h⟩
    rw [← Except.ok.inj h]

/-- The URL of a request is the one that the client asks for, or what is left of that without a
    server. -/
theorem exists_make?_of_request {client : Client} {url : Url} {configured : Mapping Text}
    {verified : Bool} {request : Request}
    (h : client.request url configured verified = .ok request) :
    (request.url = url ∨ url.isRelative = true ∧ url.localPart = .ok request.url) ∧
      Request.make? request.url client.config.userAgent configured verified = .ok request := by
  unfold Client.request at h
  by_cases hrelative : url.isRelative = true
  · rw [if_pos hrelative] at h
    rcases exists_of_bind_eq_ok h with ⟨named, hnamed, h⟩
    have hmake := eq_ok_of_mapError_eq_ok h
    rw [url_of_make? hmake]
    exact ⟨.inr ⟨hrelative, eq_ok_of_mapError_eq_ok hnamed⟩, hmake⟩
  · rw [if_neg hrelative] at h
    have hmake := eq_ok_of_mapError_eq_ok (show (Request.make? url _ _ _).mapError _ = _ from h)
    rw [url_of_make? hmake]
    exact ⟨.inl rfl, hmake⟩

/-- The requests of one attempt: what the client asks for by itself, and the redirects from there. -/
def IsAttempt (client : Client) (allowance : Allowance) (requests : List Request) : Prop :=
  ∃ url first rest, requests = first :: rest ∧ client.Asks allowance url first ∧
    IsExchange client.server client.config.followRedirects first rest

variable {client : Client} {allowance : Allowance}

theorem madeOf_ask {url : Url}
    (hscheme : url.scheme = "https" ∨ allowance.plaintext = true ∧ url.scheme = "http")
    (target : Text) (verified : Bool) :
    MadeOf (client.IsAttempt allowance) (client.ask target url verified).requests := by
  apply Run.madeOf_ofExcept_bind
  intro headers hheaders
  rw [Run.requests_told_bind]
  apply Run.madeOf_ofExcept_bind
  intro request hrequest
  rcases requests_exchange client.server client.config.followRedirects request with
    ⟨rest, hrest, hexchange⟩
  have hasks : client.Asks allowance url request :=
    ⟨hscheme, headers, verified, eq_ok_of_mapError_eq_ok hheaders, hrequest⟩
  exact .of_part ⟨url, request, rest, hrest, hasks, hexchange⟩

theorem requests_documentOf (target : Text) (answer : Answer) :
    (documentOf target answer).requests = [] := by
  rw [documentOf]
  split <;> rfl

theorem madeOf_attempt {scheme : Text} (hs : Url.IsScheme scheme)
    (hscheme : scheme = "https" ∨ allowance.plaintext = true ∧ scheme = "http") (url : Text)
    (verified : Bool) :
    MadeOf (client.IsAttempt allowance) (client.attempt url scheme verified).requests := by
  apply Run.madeOf_ofExcept_bind
  intro target htarget
  apply Run.madeOf_ofExcept_bind
  intro parsed hparsed
  -- what is read has the scheme that was put in place of the other one
  have hparsedScheme : parsed.scheme = scheme := Url.scheme_replaceScheme hs
    (eq_ok_of_mapError_eq_ok htarget) (eq_ok_of_mapError_eq_ok hparsed)
  apply Run.madeOf_bind
  · apply Run.madeOf_mapError
    apply madeOf_ask
    rw [hparsedScheme]
    exact hscheme
  · intro answer
    rw [requests_documentOf]
    exact .nil

theorem madeOf_fetch (client : Client) (url : Text) (allowance : Allowance) :
    MadeOf (client.IsAttempt allowance) (client.fetch url allowance).requests := by
  apply Run.madeOf_either
  · exact madeOf_attempt Url.isScheme_https (.inl rfl) url _
  · intro error
    by_cases hplain : allowance.plaintext = true
    · rw [if_pos hplain, Run.requests_told_bind]
      exact madeOf_attempt Url.isScheme_http (.inr ⟨hplain, rfl⟩) url true
    · rw [if_neg hplain]
      exact .nil
  · exact fun _ => .nil

end Client

/-! ## Walks and resolutions -/

theorem Walk.madeOf_visit {part : List Request → Prop} {source : PageSource}
    (h : ∀ place, MadeOf part (source place).requests) (app : App) (kind : Kind)
    (attempts : List Attempt) (places : List Text) :
    MadeOf part (visit source app kind attempts places).requests := by
  induction places generalizing attempts with
  | nil => exact .nil
  | cons place rest ih =>
    rw [visit]
    apply Run.madeOf_either (h place)
    · intro error
      rw [Run.requests_told_bind]
      exact ih _
    · intro document
      dsimp only
      split
      · rw [Run.requests_told_bind]
        exact ih _
      · exact .nil

namespace Client

theorem madeOf_walk (client : Client) (app : App) (kind : Kind) (allowance : Allowance) :
    MadeOf (client.IsAttempt allowance) (client.walk app kind allowance).requests :=
  Walk.madeOf_visit (fun _ => client.madeOf_fetch _ allowance) app kind [] app.namespaces

theorem requests_fetchTagData (client : Client) (document : Endpoint) (allowance : Allowance) :
    (client.fetchTagData document allowance).requests =
      (client.fetch document.artifact allowance).requests := by
  rw [fetchTagData, Run.requests_bind, Run.requests_mapError]
  split
  · rename_i fetched _
    cases TagData.ofBytes? fetched.body <;> exact List.append_nil _
  · exact List.append_nil _

theorem madeOf_fetchTagData (client : Client) (document : Endpoint) (allowance : Allowance) :
    MadeOf (client.IsAttempt allowance) (client.fetchTagData document allowance).requests := by
  rw [requests_fetchTagData]
  exact client.madeOf_fetch _ allowance

theorem madeOf_resolveTag (client : Client) (app : App) (tag : Option Text)
    (allowance : Allowance) :
    MadeOf (client.IsAttempt allowance) (client.resolveTag app tag allowance).requests := by
  rw [resolveTag]
  split
  · exact .nil
  · rename_i tag _
    apply Run.madeOf_bind
    · apply Run.madeOf_either (client.madeOf_walk app .tags allowance)
      · exact fun _ => .nil
      · intro found
        exact Run.madeOf_bind (client.madeOf_fetchTagData _ allowance) fun _ => .nil
    · intro found
      exact Run.madeOf_bind .nil fun _ => .nil

theorem madeOf_resolve (client : Client) (app : App) (tag : Option Text) (allowance : Allowance) :
    MadeOf (client.IsAttempt allowance) (client.resolve app tag allowance).requests := by
  apply Run.madeOf_bind (client.madeOf_resolveTag app tag allowance)
  intro tagged
  apply Run.madeOf_bind (Run.madeOf_mapError (client.madeOf_walk _ .images allowance) _)
  intro images
  apply Run.madeOf_bind
  · exact Run.madeOf_either (client.madeOf_walk _ .keys allowance) (fun _ => .nil) fun _ => .nil
  · exact fun _ => .nil

/-! ## Whatever a client is told to do -/

/-- What a client may be told to do. -/
inductive Operation where
  | fetch (url : Text)
  | fetchPage (place : Text)
  | walk (app : App) (kind : Kind)
  | fetchTagData (document : Endpoint)
  | resolve (app : App) (tag : Option Text)

/-- The requests that a client makes on the way. -/
def Operation.requests (client : Client) (allowance : Allowance) : Operation → List Request
  | .fetch url => (client.fetch url allowance).requests
  | .fetchPage place => (client.fetchPage place allowance).requests
  | .walk app kind => (client.walk app kind allowance).requests
  | .fetchTagData document => (client.fetchTagData document allowance).requests
  | .resolve app tag => (client.resolve app tag allowance).requests

theorem Operation.madeOf (client : Client) (allowance : Allowance) (operation : Operation) :
    MadeOf (client.IsAttempt allowance) (operation.requests client allowance) := by
  cases operation with
  | fetch url => exact client.madeOf_fetch url allowance
  | fetchPage place => exact client.madeOf_fetch _ allowance
  | walk app kind => exact client.madeOf_walk app kind allowance
  | fetchTagData document => exact client.madeOf_fetchTagData document allowance
  | resolve app tag => exact client.madeOf_resolve app tag allowance

/-- Each request ends an exchange that the client began by itself. -/
theorem Operation.exists_exchange {operation : Operation} {before after : List Request}
    {r : Request} (h : operation.requests client allowance = before ++ r :: after) :
    ∃ earlier start url first rest, before = earlier ++ start ∧ start ++ [r] = first :: rest ∧
      client.Asks allowance url first ∧
      IsExchange client.server client.config.followRedirects first rest := by
  rcases (operation.madeOf client allowance).exists_part h with
    ⟨earlier, start, more, hbefore, url, first, rest, hpart, hasks, hexchange⟩
  refine ⟨earlier, start, url, first, ?_⟩
  cases start with
  | nil =>
    rw [List.nil_append, List.cons.injEq] at hpart
    exact ⟨[], hbefore, by rw [hpart.1]; rfl, hasks, .single _ _ _⟩
  | cons s start =>
    rw [List.cons_append, List.cons.injEq, List.append_cons] at hpart
    rw [← hpart.2] at hexchange
    exact ⟨start ++ [r], hbefore, by rw [hpart.1]; rfl, hasks, hexchange.initial⟩

end Client

end ImageDiscovery
