import ImageDiscovery.Proofs.Fetch.Breakdown
import ImageDiscovery.Site

/-!
# Direct answers — exchanges of one request

Where no answer points elsewhere and the connection is not misused, an exchange is one request, and what
comes of it is the reply.  The sites that are held in memory are such servers unless they were told to
send their readers elsewhere.
-/

namespace ImageDiscovery

namespace Fetch

/-- If there is no answer, the fault is one of those that fetches fail by. -/
def NeverMisused (server : Server) : Prop :=
  ∀ request fault, server request = .fault fault → fault.isMisuse = false

/-- No answer says that the document is elsewhere. -/
def NeverRedirects (server : Server) : Prop :=
  ∀ request status location body, server request = .answer status location body → location = none

/-- What comes of a request by a reply that points nowhere else. -/
def received (request : Request) : Reply → Except (Failure TransportFault) Answer
  | .answer status location body => .ok ⟨request.url, status, location, body⟩
  | .fault fault => .error (.expected fault)

variable {server : Server} {request : Request}

theorem outcome_send_of_direct
    (hmisuse : ∀ fault, server request = .fault fault → fault.isMisuse = false)
    (hredirects : NeverRedirects server)
    (hkind : tellsKind request.url.toText = true) :
    (send server request).outcome = received request (server request) := by
  have hsend : (send server request).outcome = (receive request (server request)).outcome := by
    rw [send, Run.outcome_bind]
    rfl
  rw [hsend]
  cases hreply : server request with
  | fault fault =>
    rw [receive, hmisuse fault hreply]
    rfl
  | answer status location body =>
    rw [hredirects request status location body hreply, receive, Option.bind_none, if_pos hkind]
    rfl

/-- Without a place that an answer points to, there is no second request. -/
theorem requests_exchange_of_straight (hredirects : NeverRedirects server) (follows : Bool)
    (request : Request) : (exchange server follows request).requests = [request] := by
  rcases requests_exchange server follows request with ⟨rest, hrest, hexchange⟩
  cases rest with
  | nil => exact hrest
  | cons next rest =>
    rcases (List.isChain_cons_cons.mp hexchange.chain).1 with ⟨status, location, body, hreply, -⟩
    cases hredirects request status _ body hreply

theorem exchange_of_direct
    (hmisuse : ∀ fault, server request = .fault fault → fault.isMisuse = false)
    (hredirects : NeverRedirects server)
    (hkind : tellsKind request.url.toText = true) (follows : Bool) :
    (exchange server follows request).requests = [request] ∧
      (exchange server follows request).outcome = received request (server request) := by
  have hsend := outcome_send_of_direct hmisuse hredirects hkind
  constructor
  · exact requests_exchange_of_straight hredirects follows request
  · have hstep : exchange server follows request =
        send server request >>= afterAnswer follows (exchangeWithin server follows 19) request := rfl
    rw [hstep, Run.outcome_bind, hsend]
    cases hreply : server request with
    | fault fault => rfl
    | answer status location body =>
      -- without a location the answer is the last one
      rw [hredirects request status location body hreply]
      show (afterAnswer follows _ request ⟨request.url, status, none, body⟩).outcome = _
      have hlast : (⟨request.url, status, none, body⟩ : Answer).redirect? = none := ite_self _
      rw [afterAnswer, hlast]
      rfl

end Fetch

namespace Site

open Fetch

variable {site : Site}

theorem neverRedirects (h : site.detours = {}) : NeverRedirects site.reply := by
  intro request status location body hreply
  unfold reply at hreply
  rw [h] at hreply
  dsimp only at hreply
  split at hreply
  · exact nomatch hreply
  · -- a site without detours knows of none
    rename_i hdetour _
    exact nomatch hdetour
  · cases hreply
    rfl
  · cases hreply
    rfl

theorem neverMisused (h : ∀ place fault, (place, Route.fault fault) ∈ site.routes →
    fault.isMisuse = false) : NeverMisused site.reply := by
  intro request fault hreply
  unfold reply at hreply
  dsimp only at hreply
  split at hreply
  · rename_i fault' _ hroute
    cases hreply
    unfold route? at hroute
    rcases Option.map_eq_some_iff.mp hroute with ⟨⟨place, route⟩, hfind, hroute⟩
    dsimp only at hroute
    subst hroute
    exact h place fault (List.mem_of_find?_eq_some hfind)
  · exact nomatch hreply
  · exact nomatch hreply
  · exact nomatch hreply

end Site

end ImageDiscovery
