import ImageDiscovery.Fetch.Exchange
import ImageDiscovery.Proofs.Fetch.Redirect
import Mathlib.Data.List.Chain

/-!
# Chains — the requests of one exchange

An exchange sends its request first.  Every other request that it sends is the one that the answer to
the request before leads to, so the requests of an exchange are a chain, and one request is all there
is of it if redirects are not followed.
-/

namespace ImageDiscovery

namespace Fetch

/-- The answer to a request is a redirect, and it leads to another request. -/
def Follows (server : Server) (asked next : Request) : Prop :=
  ∃ status location body, server asked = .answer status (some location) body ∧
    status ∈ redirectStatuses ∧ asked.redirected location = .ok next

variable {server : Server} {follows : Bool} {request : Request} {answer : Answer}

/-! ## One request -/

@[simp] theorem requests_receive (request : Request) (reply : Reply) :
    (receive request reply).requests = [] := by
  unfold receive
  split
  · split <;> rfl
  · split
    · rfl
    · split <;> rfl

theorem requests_send (server : Server) (request : Request) :
    (send server request).requests = [request] := by
  rw [send, Run.requests_bind]
  show [request] ++ (receive request (server request)).requests = [request]
  rw [requests_receive, List.append_nil]

theorem reply_of_outcome_send (h : (send server request).outcome = .ok answer) :
    server request = .answer answer.status answer.location answer.body := by
  have hreceive : (receive request (server request)).outcome = .ok answer := by
    rw [send, Run.outcome_bind] at h
    exact h
  -- faults and answers that cannot be received end otherwise; all others are passed on unchanged
  unfold receive at hreceive
  split at hreceive
  · split at hreceive <;> exact nomatch hreceive
  · rename_i status location body hreply
    split at hreceive
    · exact nomatch hreceive
    · split at hreceive
      · rw [← Except.ok.inj hreceive, hreply]
      · exact nomatch hreceive

theorem follows_of_redirect? {location : Text} {next : Request}
    (hanswer : (send server request).outcome = .ok answer)
    (hredirect : answer.redirect? = some location)
    (hnext : request.redirected location = .ok next) : Follows server request next := by
  have hreply := reply_of_outcome_send hanswer
  unfold Answer.redirect? at hredirect
  split at hredirect
  · rename_i hstatus
    exact ⟨answer.status, location, answer.body, hredirect ▸ hreply, hstatus, hnext⟩
  · exact nomatch hredirect

/-- A step sends its request; what it sends after that comes from following a redirect. -/
theorem requests_exchangeStep (server : Server) (follows : Bool)
    (next : Request → Run TransportFault Answer) (request : Request) :
    (exchangeStep server follows next request).requests = [request] ∨
      ∃ redirected, follows = true ∧ Follows server request redirected ∧
        (exchangeStep server follows next request).requests =
          request :: (next redirected).requests := by
  rw [exchangeStep, Run.requests_bind, requests_send]
  cases hanswer : (send server request).outcome with
  | error failure => exact .inl rfl
  | ok answer =>
    dsimp only
    cases hredirect : answer.redirect? with
    | none => exact .inl rfl
    | some location =>
      dsimp only
      rw [Run.requests_bind]
      cases hredirected : request.redirected location with
      | error failure => exact .inl rfl
      | ok redirected =>
        -- the next request is made in any case, but it is only sent if redirects are followed
        cases follows with
        | false => exact .inl rfl
        | true => exact .inr ⟨redirected, rfl, follows_of_redirect? hanswer hredirect hredirected, rfl⟩

/-! ## Along a chain -/

theorem target_of_follows {asked next : Request} (h : Follows server asked next) :
    ∃ status location body, server asked = .answer status (some location) body ∧
      status ∈ redirectStatuses ∧ redirectTarget asked.url location = .ok next.url := by
  rcases h with ⟨status, location, body, hreply, hstatus, hredirected⟩
  unfold Request.redirected at hredirected
  rcases exists_of_bind_eq_ok hredirected with ⟨url, htarget, hredirected⟩
  rcases exists_of_bind_eq_ok hredirected with ⟨headers, -, hredirected⟩
  rw [← Except.ok.inj hredirected]
  exact ⟨status, location, body, hreply, hstatus, htarget⟩

/-- Along a chain of redirects, whatever is not without a scheme has a proper one. -/
theorem isScheme_of_chain {first : Request} {rest : List Request}
    (hchain : (first :: rest).IsChain (Follows server))
    (hfirst : first.url.scheme ≠ [] → Url.IsScheme first.url.scheme) :
    ∀ q ∈ first :: rest, q.url.scheme ≠ [] → Url.IsScheme q.url.scheme := by
  induction rest generalizing first with
  | nil =>
    intro q hq
    rw [List.mem_singleton.mp hq]
    exact hfirst
  | cons second rest ih =>
    rcases List.isChain_cons_cons.mp hchain with ⟨hhop, hchain⟩
    rcases target_of_follows hhop with ⟨status, location, body, -, -, htarget⟩
    rw [List.forall_mem_cons]
    exact ⟨hfirst, ih hchain (isScheme_of_redirectTarget htarget)⟩

theorem names_of_follows {asked next : Request} (h : Follows server asked next)
    (hs : Url.IsScheme asked.url.scheme) (hne : asked.url.scheme ≠ next.url.scheme) :
    ∃ status location body, server asked = .answer status (some location) body ∧
      status ∈ redirectStatuses ∧ Names location next.url.scheme := by
  rcases target_of_follows h with ⟨status, location, body, hreply, hstatus, htarget⟩
  refine ⟨status, location, body, hreply, hstatus, ?_⟩
  exact (scheme_redirectTarget hs htarget).resolve_left fun e => hne e.symm

theorem mem_headers_of_chain {first r : Request} {start rest : List Request} {name value : Text}
    (hchain : (first :: rest).IsChain (Follows server)) (hsplit : start ++ [r] = first :: rest)
    (hmem : (name, value) ∈ r.headers) (hhost : name ≠ host) :
    (name, value) ∈ first.headers ∧ (rest ≠ [] → name ≠ cookie) ∧
      (name = authorization →
        (first :: rest).IsChain fun last next => StaysWith last.url next.url) := by
  induction rest generalizing first start with
  | nil =>
    -- no redirect: the last request is the first
    have hr : r ∈ [first] := by
      rw [← hsplit]
      exact List.mem_append_right _ List.mem_cons_self
    rw [List.mem_singleton] at hr
    exact ⟨hr ▸ hmem, fun h => absurd rfl h, fun _ => List.isChain_singleton _⟩
  | cons second rest ih =>
    cases start with
    | nil => exact absurd hsplit (by simp)
    | cons s start =>
      rw [List.cons_append, List.cons.injEq] at hsplit
      rcases List.isChain_cons_cons.mp hchain with ⟨hhop, hchain⟩
      -- the header was on the second request, and so it was on the first
      rcases ih hchain hsplit.2 with ⟨hsecond, -, hstays⟩
      rcases hhop with ⟨status, location, body, -, -, hredirected⟩
      rcases mem_headers_of_redirected hredirected hsecond hhost with ⟨hfirst, hcookie, hstep⟩
      exact ⟨hfirst, fun _ => hcookie, fun hname =>
        List.isChain_cons_cons.mpr ⟨hstep hname, hstays hname⟩⟩

/-! ## A whole exchange -/

/-- The requests of an exchange: its own, and a chain of redirects if these are followed. -/
structure IsExchange (server : Server) (follows : Bool) (first : Request) (rest : List Request) :
    Prop where
  chain : (first :: rest).IsChain (Follows server)
  alone : follows = false → rest = []

namespace IsExchange

theorem single (server : Server) (follows : Bool) (request : Request) :
    IsExchange server follows request [] :=
  ⟨List.isChain_singleton _, fun _ => rfl⟩

theorem follows_eq_true {first : Request} {rest : List Request}
    (h : IsExchange server follows first rest) (hne : rest ≠ []) : follows = true := by
  cases follows with
  | true => rfl
  | false => exact absurd (h.alone rfl) hne

theorem initial {first : Request} {rest more : List Request}
    (h : IsExchange server follows first (rest ++ more)) : IsExchange server follows first rest := by
  constructor
  · have hchain := h.chain
    rw [← List.cons_append] at hchain
    exact hchain.left_of_append
  · intro hnot
    exact (List.append_eq_nil_iff.mp (h.alone hnot)).1

end IsExchange

theorem requests_exchangeWithin (server : Server) (follows : Bool) (left : Nat) (request : Request) :
    ∃ rest, (exchangeWithin server follows left request).requests = request :: rest ∧
      IsExchange server follows request rest := by
  induction left generalizing request with
  | zero =>
    -- one redirect too many: what comes after this request sends nothing
    rcases requests_exchangeStep server follows (fun _ => .fail tooManyRedirects) request with
      hstop | ⟨redirected, -, -, hstep⟩
    · exact ⟨[], hstop, .single server follows request⟩
    · exact ⟨[], hstep, .single server follows request⟩
  | succ left ih =>
    rcases requests_exchangeStep server follows (exchangeWithin server follows left) request with
      hstop | ⟨redirected, hfollows, hhop, hstep⟩
    · exact ⟨[], hstop, .single server follows request⟩
    · -- the rest is what the redirected request leads to
      rcases ih redirected with ⟨rest, hrest, hchain, -⟩
      refine ⟨redirected :: rest, ?_, ?_, ?_⟩
      · rw [exchangeWithin, hstep, hrest]
      · exact List.isChain_cons_cons.mpr ⟨hhop, hchain⟩
      · intro hnot
        rw [hfollows] at hnot
        exact nomatch hnot

theorem requests_exchange (server : Server) (follows : Bool) (request : Request) :
    ∃ rest, (exchange server follows request).requests = request :: rest ∧
      IsExchange server follows request rest :=
  requests_exchangeWithin server follows maxRedirects request

end Fetch

end ImageDiscovery
