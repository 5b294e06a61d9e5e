import ImageDiscovery.Fetch.Request
import ImageDiscovery.Log
import ImageDiscovery.Url.Loose

/-!
# Run — a result, and what was sent and told on the way

A run ends with a value or a failure, and leaves a trace: the requests that it made and the records
that it logged, each in their order.  A failure is either one that callers expect, of type `ε`, or a
breakdown, which nobody handles.
-/

namespace ImageDiscovery

namespace Fetch

/-- What ends a run although no fetch failed as fetches do: a text is not what its place needs it to
be, or the connection is misused. -/
inductive Breakdown where
  | unencodable (what : Unencodable)
  | hostName (problem : Idna.Problem)
  /-- The URL does not say what kind of URL it is. -/
  | unknownKind (url : Text)
  /-- The place of a server cannot be one. -/
  | badPlace (problem : LooseUrl.Problem)
  | misuse (fault : TransportFault)
deriving DecidableEq

def Breakdown.message : Breakdown → Text
  | .unencodable u => u.message
  | .hostName problem => problem.message
  | .unknownKind url => "unknown url type: " ++ url.quoted
  | .badPlace problem => problem.message
  | .misuse fault => fault.message

inductive Failure (ε : Type) where
  | expected (error : ε)
  | breakdown (cause : Breakdown)
deriving DecidableEq

structure Trace where
  requests : List Request := []
  records : List Log.Record := []

namespace Trace

def append (s t : Trace) : Trace := ⟨s.requests ++ t.requests, s.records ++ t.records⟩

instance : Append Trace := ⟨append⟩

@[simp] theorem requests_append (s t : Trace) : (s ++ t).requests = s.requests ++ t.requests := rfl

@[simp] theorem records_append (s t : Trace) : (s ++ t).records = s.records ++ t.records := rfl

end Trace

end Fetch

open Fetch

structure Run (ε α : Type) where
  outcome : Except (Failure ε) α
  trace : Trace := {}

namespace Run

variable {ε ε' α β : Type}

def requests (x : Run ε α) : List Request := x.trace.requests

def records (x : Run ε α) : List Log.Record := x.trace.records

/-! ## Steps -/

def fail (error : ε) : Run ε α := ⟨.error (.expected error), {}⟩

def breakdown (cause : Breakdown) : Run ε α := ⟨.error (.breakdown cause), {}⟩

def sent (request : Request) : Run ε Unit := ⟨.ok (), { requests := [request] }⟩

def told (record : Log.Record) : Run ε Unit := ⟨.ok (), { records := [record] }⟩

def ofExcept (x : Except (Failure ε) α) : Run ε α := ⟨x, {}⟩

/-! ## Sequences -/

/-- What comes after a run that failed is not run. -/
def bind (x : Run ε α) (f : α → Run ε β) : Run ε β :=
  match x.outcome with
  | .ok a => ⟨(f a).outcome, x.trace ++ (f a).trace⟩
  | .error e => ⟨.error e, x.trace⟩

instance : Monad (Run ε) where
  pure a := ⟨.ok a, {}⟩
  bind := bind

/-- Goes on with a value or with an expected failure; breakdowns stay. -/
def either (x : Run ε α) (onError : ε → Run ε' β) (onValue : α → Run ε' β) : Run ε' β :=
  match x.outcome with
  | .ok a => ⟨(onValue a).outcome, x.trace ++ (onValue a).trace⟩
  | .error (.expected e) => ⟨(onError e).outcome, x.trace ++ (onError e).trace⟩
  | .error (.breakdown cause) => ⟨.error (.breakdown cause), x.trace⟩

/-- Tells expected failures in other words. -/
def mapError (x : Run ε α) (f : ε → ε') : Run ε' α :=
  x.either (fun e => fail (f e)) pure

/-! ## What runs leave -/

@[simp] theorem requests_pure (a : α) : (pure a : Run ε α).requests = [] := rfl

@[simp] theorem requests_fail (error : ε) : (fail error : Run ε α).requests = [] := rfl

@[simp] theorem requests_breakdown (cause : Breakdown) :
    (breakdown cause : Run ε α).requests = [] := rfl

@[simp] theorem requests_sent (request : Request) :
    (sent request : Run ε Unit).requests = [request] := rfl

@[simp] theorem requests_told (record : Log.Record) : (told record : Run ε Unit).requests = [] := rfl

@[simp] theorem requests_ofExcept (x : Except (Failure ε) α) : (ofExcept x).requests = [] := rfl

theorem requests_bind (x : Run ε α) (f : α → Run ε β) :
    (x >>= f).requests = x.requests ++ match x.outcome with
      | .ok a => (f a).requests
      | .error _ => [] := by
  show (bind x f).requests = _
  unfold bind
  split <;> simp_all [requests]

theorem outcome_bind (x : Run ε α) (f : α → Run ε β) :
    (x >>= f).outcome = x.outcome >>= fun a => (f a).outcome := by
  show (bind x f).outcome = _
  unfold bind
  split <;> rename_i h <;> rw [h] <;> rfl

@[simp] theorem requests_told_bind (record : Log.Record) (f : Unit → Run ε α) :
    (told record >>= f).requests = (f ()).requests := rfl

@[simp] theorem outcome_told_bind (record : Log.Record) (f : Unit → Run ε α) :
    (told record >>= f).outcome = (f ()).outcome := rfl

section

variable {x : Run ε α} {onError : ε → Run ε' β} {onValue : α → Run ε' β}

theorem requests_either_of_ok {a : α} (h : x.outcome = .ok a) :
    (x.either onError onValue).requests = x.requests ++ (onValue a).requests := by
  unfold either
  rw [h]
  rfl

theorem outcome_either_of_ok {a : α} (h : x.outcome = .ok a) :
    (x.either onError onValue).outcome = (onValue a).outcome := by
  unfold either
  rw [h]

theorem requests_either_of_expected {e : ε} (h : x.outcome = .error (.expected e)) :
    (x.either onError onValue).requests = x.requests ++ (onError e).requests := by
  unfold either
  rw [h]
  rfl

theorem outcome_either_of_expected {e : ε} (h : x.outcome = .error (.expected e)) :
    (x.either onError onValue).outcome = (onError e).outcome := by
  unfold either
  rw [h]

theorem requests_either_of_breakdown {cause : Breakdown}
    (h : x.outcome = .error (.breakdown cause)) :
    (x.either onError onValue).requests = x.requests := by
  unfold either
  rw [h]
  rfl

end

end Run

end ImageDiscovery
