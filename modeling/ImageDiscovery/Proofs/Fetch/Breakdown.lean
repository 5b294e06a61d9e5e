import ImageDiscovery.Proofs.Fetch.Chain
import ImageDiscovery.Proofs.Fetch.Run

/-!
# Breakdowns — the answers that nobody handles

An exchange breaks down at a request whose answer cannot be received or leads to a place that cannot be
read.  Nothing follows such a request.  So whether a run breaks down can be told from the requests that
it makes, as long as nothing else in it does.
-/

namespace ImageDiscovery

open Fetch

namespace Run

variable {ε ε' α β : Type} {hazard : Request → Prop}

/-- A run breaks down at a request of some kind, and in no other way. -/
def BreaksOnlyAt (hazard : Request → Prop) (x : Run ε α) : Prop :=
  (∃ cause, x.outcome = .error (.breakdown cause)) ↔ ∃ r ∈ x.requests, hazard r

theorem breaksOnlyAt_of_not_breakdown {x : Run ε α} (hrequests : x.requests = [])
    (h : ∀ cause, x.outcome ≠ .error (.breakdown cause)) : x.BreaksOnlyAt hazard := by
  constructor
  · rintro ⟨cause, hcause⟩
    exact absurd hcause (h cause)
  · rintro ⟨r, hr, -⟩
    rw [hrequests] at hr
    exact nomatch hr

theorem breaksOnlyAt_pure (a : α) : (pure a : Run ε α).BreaksOnlyAt hazard :=
  breaksOnlyAt_of_not_breakdown rfl nofun

theorem breaksOnlyAt_fail (e : ε) : (fail e : Run ε α).BreaksOnlyAt hazard :=
  breaksOnlyAt_of_not_breakdown rfl nofun

/-- What makes no request and fails as expected at most changes nothing. -/
theorem breaksOnlyAt_ofExcept_bind {x : Except (Failure ε) α} {f : α → Run ε β}
    (hx : ∀ cause, x ≠ .error (.breakdown cause))
    (hf : ∀ a, x = .ok a → (f a).BreaksOnlyAt hazard) : (ofExcept x >>= f).BreaksOnlyAt hazard := by
  cases x with
  | ok a => exact hf a rfl
  | error e =>
    apply breaksOnlyAt_of_not_breakdown rfl
    intro cause h
    exact hx cause (congrArg Except.error (Except.error.inj h))

theorem breaksOnlyAt_told_bind {record : Log.Record} {f : Unit → Run ε α}
    (h : (f ()).BreaksOnlyAt hazard) : (told record >>= f).BreaksOnlyAt hazard := h

/-- As long as the first part of a run did not break down, its requests are not to blame. -/
theorem breaksOnlyAt_of_append {x : Run ε α} {y z : Run ε' β} (hx : x.BreaksOnlyAt hazard)
    (hcalm : ∀ cause, x.outcome ≠ .error (.breakdown cause)) (hy : y.BreaksOnlyAt hazard)
    (houtcome : z.outcome = y.outcome) (hrequests : z.requests = x.requests ++ y.requests) :
    z.BreaksOnlyAt hazard := by
  have hnone : ∀ r ∈ x.requests, ¬ hazard r := by
    intro r hr hhazard
    rcases hx.mpr ⟨r, hr, hhazard⟩ with ⟨cause, hcause⟩
    exact hcalm cause hcause
  rw [BreaksOnlyAt, houtcome, hrequests]
  constructor
  · intro h
    rcases hy.mp h with ⟨r, hr, hhazard⟩
    exact ⟨r, List.mem_append_right _ hr, hhazard⟩
  · rintro ⟨r, hr, hhazard⟩
    rcases List.mem_append.mp hr with hr | hr
    · exact absurd hhazard (hnone r hr)
    · exact hy.mpr ⟨r, hr, hhazard⟩

theorem breaksOnlyAt_either {x : Run ε α} {onError : ε → Run ε' β} {onValue : α → Run ε' β}
    (hx : x.BreaksOnlyAt hazard)
    (herror : ∀ e, x.outcome = .error (.expected e) → (onError e).BreaksOnlyAt hazard)
    (hvalue : ∀ a, x.outcome = .ok a → (onValue a).BreaksOnlyAt hazard) :
    (x.either onError onValue).BreaksOnlyAt hazard := by
  match h : x.outcome with
  | .ok a =>
    exact breaksOnlyAt_of_append hx (by simp [h]) (hvalue a h) (outcome_either_of_ok h)
      (requests_either_of_ok h)
  | .error (.expected e) =>
    exact breaksOnlyAt_of_append hx (by simp [h]) (herror e h) (outcome_either_of_expected h)
      (requests_either_of_expected h)
  | .error (.breakdown cause) =>
    rw [BreaksOnlyAt, outcome_either_of_breakdown h, requests_either_of_breakdown h]
    exact ⟨fun _ => hx.mp ⟨cause, h⟩, fun _ => ⟨cause, rfl⟩⟩

theorem breaksOnlyAt_mapError {x : Run ε α} (hx : x.BreaksOnlyAt hazard) (f : ε → ε') :
    (x.mapError f).BreaksOnlyAt hazard :=
  breaksOnlyAt_either hx (fun _ _ => breaksOnlyAt_fail _) fun _ _ => breaksOnlyAt_pure _

theorem breaksOnlyAt_bind {x : Run ε α} {f : α → Run ε β} (hx : x.BreaksOnlyAt hazard)
    (hf : ∀ a, x.outcome = .ok a → (f a).BreaksOnlyAt hazard) : (x >>= f).BreaksOnlyAt hazard := by
  match h : x.outcome with
  | .ok a =>
    exact breaksOnlyAt_of_append hx (by simp [h]) (hf a h) (outcome_bind_of_ok h)
      (requests_bind_of_ok h)
  | .error e =>
    have hrequests : (x >>= f).requests = x.requests := requests_bind_of_error h
    rw [BreaksOnlyAt, outcome_bind_of_error h, hrequests]
    rw [BreaksOnlyAt, h] at hx
    exact Iff.trans (by simp) hx

end Run

namespace Fetch

/-- The answer to a request cannot be received. -/
def Unreceivable (server : Server) (request : Request) : Prop :=
  match server request with
  | .fault fault => fault.isMisuse = true
  | .answer _ location _ =>
    (location.bind Text.notAscii).isSome = true ∨ tellsKind request.url.toText = false

/-- The answer to a request leads to a place that cannot be read. -/
def Misleads (server : Server) (request : Request) : Prop :=
  ∃ status location body cause, server request = .answer status (some location) body ∧
    status ∈ redirectStatuses ∧ request.redirected location = .error (.breakdown cause)

def Hazard (server : Server) (request : Request) : Prop :=
  Unreceivable server request ∨ Misleads server request

variable {server : Server}

theorem breaksOnlyAt_send (server : Server) (request : Request) :
    (send server request).BreaksOnlyAt (Unreceivable server) := by
  have hsend : (send server request).outcome = (receive request (server request)).outcome := by
    rw [send, Run.outcome_bind]
    rfl
  rw [Run.BreaksOnlyAt, requests_send, hsend]
  simp only [List.mem_singleton, exists_eq_left, Unreceivable]
  cases server request with
  | fault fault =>
    cases hmisuse : fault.isMisuse with
    | true => simp [receive, hmisuse, Run.breakdown]
    | false => simp [receive, hmisuse, Run.fail]
  | answer status location body =>
    cases hlocation : location.bind Text.notAscii with
    | some u => simp [receive, hlocation, Run.breakdown]
    | none =>
      cases hkind : tellsKind request.url.toText with
      | true => simp [receive, hlocation, hkind, pure]
      | false => simp [receive, hlocation, hkind, Run.breakdown]

/-- Only an answer that is received misleads; the other requests fail or cannot be answered. -/
theorem misleads_iff {request : Request} (hcalm : ¬ Unreceivable server request) :
    Misleads server request ↔ ∃ answer place cause, (send server request).outcome = .ok answer ∧
      answer.redirect? = some place ∧ request.redirected place = .error (.breakdown cause) := by
  constructor
  · rintro ⟨status, place, body, cause, hreply, hstatus, hredirected⟩
    -- such a reply is received as it is
    refine ⟨⟨request.url, status, some place, body⟩, place, cause, ?_, if_pos hstatus, hredirected⟩
    rw [Unreceivable, hreply] at hcalm
    simp only [not_or, Bool.not_eq_true, Bool.not_eq_false, Option.isSome_eq_false_iff,
      Option.isNone_iff_eq_none] at hcalm
    rw [send, Run.outcome_bind, hreply, receive, hcalm.1, if_pos hcalm.2]
    rfl
  · rintro ⟨answer, place, cause, hanswer, hplace, hredirected⟩
    have hreply := reply_of_outcome_send hanswer
    unfold Answer.redirect? at hplace
    split at hplace
    · rename_i hstatus
      rw [hplace] at hreply
      exact ⟨answer.status, place, answer.body, cause, hreply, hstatus, hredirected⟩
    · cases hplace

/-- What comes of an answer: it is the last one, or the request that it leads to is made. -/
def afterAnswer (follows : Bool) (next : Request → Run TransportFault Answer) (request : Request)
    (answer : Answer) : Run TransportFault Answer :=
  match answer.redirect? with
  | none => pure answer
  | some location =>
    Run.ofExcept (request.redirected location) >>= fun redirected =>
      if follows then next redirected else pure answer

theorem breaks_afterAnswer {follows : Bool} {next : Request → Run TransportFault Answer}
    (hnext : ∀ r, (next r).BreaksOnlyAt (Hazard server)) (request : Request) (answer : Answer) :
    (∃ cause, (afterAnswer follows next request answer).outcome = .error (.breakdown cause)) ↔
      (∃ place cause, answer.redirect? = some place ∧
          request.redirected place = .error (.breakdown cause)) ∨
        ∃ r ∈ (afterAnswer follows next request answer).requests, Hazard server r := by
  -- unless the answer misleads, it is the rest that decides
  have hrest : ∀ rest : Run TransportFault Answer, rest.BreaksOnlyAt (Hazard server) →
      (∀ place, answer.redirect? = some place → ∀ cause,
        request.redirected place ≠ .error (.breakdown cause)) →
      ((∃ cause, rest.outcome = .error (.breakdown cause)) ↔
        (∃ place cause, answer.redirect? = some place ∧
            request.redirected place = .error (.breakdown cause)) ∨
          ∃ r ∈ rest.requests, Hazard server r) := by
    intro rest hbreaks hleads
    rw [or_iff_right]
    · exact hbreaks
    · rintro ⟨place, cause, hplace, hredirected⟩
      exact hleads place hplace cause hredirected
  unfold afterAnswer
  cases hredirect : answer.redirect? with
  | none =>
    rw [hredirect] at hrest
    exact hrest _ (Run.breaksOnlyAt_pure answer) nofun
  | some place =>
    rw [hredirect] at hrest
    dsimp only
    cases hredirected : request.redirected place with
    | error failure =>
      cases failure with
      | breakdown cause => exact ⟨fun _ => .inl ⟨place, cause, rfl, hredirected⟩, fun _ => ⟨cause, rfl⟩⟩
      | expected fault =>
        refine hrest _ (Run.breaksOnlyAt_of_not_breakdown rfl fun _ => nofun) ?_
        intro place' hplace cause
        rw [← Option.some.inj hplace, hredirected]
        exact nofun
    | ok redirected =>
      refine hrest (if follows then next redirected else pure answer) ?_ ?_
      · split
        · exact hnext redirected
        · exact Run.breaksOnlyAt_pure answer
      · intro place' hplace cause
        rw [← Option.some.inj hplace, hredirected]
        exact nofun

theorem breaksOnlyAt_exchangeStep {follows : Bool} {next : Request → Run TransportFault Answer}
    (hnext : ∀ r, (next r).BreaksOnlyAt (Hazard server)) (request : Request) :
    (exchangeStep server follows next request).BreaksOnlyAt (Hazard server) := by
  have hstep : exchangeStep server follows next request =
      send server request >>= afterAnswer follows next request := rfl
  have hsend := breaksOnlyAt_send server request
  rw [Run.BreaksOnlyAt, requests_send] at hsend
  simp only [List.mem_singleton, exists_eq_left] at hsend
  rw [hstep, Run.BreaksOnlyAt]
  cases hanswer : (send server request).outcome with
  | error failure =>
    -- nothing was received that could mislead, so the reply itself decides
    rw [hanswer] at hsend
    rw [Run.outcome_bind_of_error hanswer, Run.requests_bind_of_error hanswer, requests_send, hsend]
    simp only [List.mem_singleton, exists_eq_left, Hazard]
    constructor
    · exact .inl
    · intro h
      by_cases hcalm : Unreceivable server request
      · exact hcalm
      · rcases (misleads_iff hcalm).mp (h.resolve_left hcalm) with ⟨answer, -, -, h, -⟩
        rw [hanswer] at h
        exact nomatch h
  | ok answer =>
    -- the reply was received, so the answer decides
    have hcalm : ¬ Unreceivable server request := by
      intro h
      rcases hsend.mpr h with ⟨cause, hcause⟩
      rw [hanswer] at hcause
      exact nomatch hcause
    have hleads := misleads_iff hcalm
    simp only [hanswer, Except.ok.injEq, exists_and_left, exists_eq_left'] at hleads
    rw [Run.outcome_bind_of_ok hanswer, Run.requests_bind_of_ok hanswer, requests_send,
      breaks_afterAnswer hnext]
    simp only [List.singleton_append, List.mem_cons, exists_eq_or_imp, Hazard, hcalm, false_or,
      hleads, exists_and_left]

/-- **Where exchanges break down.** -/
theorem breaksOnlyAt_exchange (server : Server) (follows : Bool) (request : Request) :
    (exchange server follows request).BreaksOnlyAt (Hazard server) := by
  suffices h : ∀ left request,
      (exchangeWithin server follows left request).BreaksOnlyAt (Hazard server) from
    h maxRedirects request
  intro left
  -- on the redirects that are left: a step breaks down at its own request or at a later one
  induction left with
  | zero => exact breaksOnlyAt_exchangeStep fun _ => Run.breaksOnlyAt_fail _
  | succ left ih => exact breaksOnlyAt_exchangeStep ih

end Fetch

end ImageDiscovery
