import ImageDiscovery.Fetch.Run
import ImageDiscovery.Proofs.Outcome

/-!
# Runs — what sequences come to

The outcome and the requests of a sequence follow from the outcome of its first step.  Telling a failure
in other words changes no request, and no outcome but an expected failure.
-/

namespace ImageDiscovery

open Fetch

namespace Run

variable {ε ε' α β : Type}

/-! ## One step after another -/

section

variable {x : Run ε α} {f : α → Run ε β}

theorem outcome_bind_of_ok {a : α} (h : x.outcome = .ok a) : (x >>= f).outcome = (f a).outcome := by
  rw [outcome_bind, h]
  rfl

theorem outcome_bind_of_error {e : Failure ε} (h : x.outcome = .error e) :
    (x >>= f).outcome = .error e := by
  rw [outcome_bind, h]
  rfl

theorem requests_bind_of_ok {a : α} (h : x.outcome = .ok a) :
    (x >>= f).requests = x.requests ++ (f a).requests := by
  rw [requests_bind, h]

theorem requests_bind_of_error {e : Failure ε} (h : x.outcome = .error e) :
    (x >>= f).requests = x.requests := by
  rw [requests_bind, h]
  exact List.append_nil _

theorem outcome_bind_eq_ok_iff {b : β} :
    (x >>= f).outcome = .ok b ↔ ∃ a, x.outcome = .ok a ∧ (f a).outcome = .ok b := by
  rw [outcome_bind]
  constructor
  · exact exists_of_bind_eq_ok
  · rintro ⟨a, ha, hb⟩
    rw [ha]
    exact hb

/-- A sequence fails by its first step, or by what comes after a value of that. -/
theorem of_outcome_bind_eq_error {failure : Failure ε}
    (h : (x >>= f).outcome = .error failure) :
    x.outcome = .error failure ∨ ∃ a, x.outcome = .ok a ∧ (f a).outcome = .error failure := by
  rw [outcome_bind] at h
  exact of_bind_eq_error h

end

section

variable {x : Run ε α} {onError : ε → Run ε' β} {onValue : α → Run ε' β}

theorem outcome_either_of_breakdown {cause : Breakdown}
    (h : x.outcome = .error (.breakdown cause)) :
    (x.either onError onValue).outcome = .error (.breakdown cause) := by
  unfold either
  rw [h]

theorem outcome_either_eq_ok_iff {b : β} :
    (x.either onError onValue).outcome = .ok b ↔
      (∃ e, x.outcome = .error (.expected e) ∧ (onError e).outcome = .ok b) ∨
        ∃ a, x.outcome = .ok a ∧ (onValue a).outcome = .ok b := by
  match hx : x.outcome with
  | .ok a => simp [outcome_either_of_ok hx]
  | .error (.expected e) => simp [outcome_either_of_expected hx]
  | .error (.breakdown cause) => simp [outcome_either_of_breakdown hx]

theorem of_outcome_either_eq_expected {e' : ε'}
    (h : (x.either onError onValue).outcome = .error (.expected e')) :
    (∃ e, x.outcome = .error (.expected e) ∧ (onError e).outcome = .error (.expected e')) ∨
      ∃ a, x.outcome = .ok a ∧ (onValue a).outcome = .error (.expected e') := by
  match hx : x.outcome with
  | .ok a =>
    rw [outcome_either_of_ok hx] at h
    exact .inr ⟨a, rfl, h⟩
  | .error (.expected e) =>
    rw [outcome_either_of_expected hx] at h
    exact .inl ⟨e, rfl, h⟩
  | .error (.breakdown cause) =>
    rw [outcome_either_of_breakdown hx] at h
    exact nomatch h

end

/-! ## Failures in other words -/

section

variable {x : Run ε α} {f : ε → ε'}

theorem outcome_mapError_of_ok {a : α} (h : x.outcome = .ok a) : (x.mapError f).outcome = .ok a :=
  outcome_either_of_ok h

theorem outcome_mapError_of_expected {e : ε} (h : x.outcome = .error (.expected e)) :
    (x.mapError f).outcome = .error (.expected (f e)) :=
  outcome_either_of_expected h

theorem outcome_mapError_eq_ok_iff {a : α} : (x.mapError f).outcome = .ok a ↔ x.outcome = .ok a := by
  rw [mapError, outcome_either_eq_ok_iff]
  constructor
  · rintro (⟨e, -, h⟩ | ⟨b, hb, h⟩)
    · exact nomatch h
    · rw [hb, Except.ok.inj h]
  · intro h
    exact .inr ⟨a, h, rfl⟩

theorem of_outcome_mapError_eq_expected {e' : ε'}
    (h : (x.mapError f).outcome = .error (.expected e')) :
    ∃ e, x.outcome = .error (.expected e) ∧ f e = e' := by
  cases of_outcome_either_eq_expected h with
  | inl hexpected =>
    have ⟨e, hx, he⟩ := hexpected
    cases he
    exact ⟨e, hx, rfl⟩
  | inr hvalue =>
    have ⟨a, _, ha⟩ := hvalue
    exact nomatch ha

theorem requests_mapError (x : Run ε α) (f : ε → ε') : (x.mapError f).requests = x.requests := by
  match hx : x.outcome with
  | .ok a =>
    rw [mapError, requests_either_of_ok hx]
    exact List.append_nil _
  | .error (.expected e) =>
    rw [mapError, requests_either_of_expected hx]
    exact List.append_nil _
  | .error (.breakdown cause) => rw [mapError, requests_either_of_breakdown hx]

end

end Run

end ImageDiscovery
