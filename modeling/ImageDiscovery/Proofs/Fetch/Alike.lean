import ImageDiscovery.Fetch.Run

/-!
# Runs alike — what two runs show to a reader of their records

Two runs are alike for a view of records if they log the same to who sees no more of a record, and end
alike: with values or with failures that are related, or both with a breakdown.  A run that is put
together of steps is alike another one if their steps are.
-/

namespace ImageDiscovery

namespace Fetch

variable {ε α : Type}

inductive EndsAlike (failures : ε → ε → Prop) (values : α → α → Prop) :
    Except (Failure ε) α → Except (Failure ε) α → Prop where
  | ok {a b : α} (h : values a b) : EndsAlike failures values (.ok a) (.ok b)
  | expected {e f : ε} (h : failures e f) :
    EndsAlike failures values (.error (.expected e)) (.error (.expected f))
  | breakdown (cause cause' : Breakdown) :
    EndsAlike failures values (.error (.breakdown cause)) (.error (.breakdown cause'))

namespace EndsAlike

theorem refl {failures : ε → ε → Prop} {values : α → α → Prop} (hf : ∀ e, failures e e)
    (hv : ∀ a, values a a) (x : Except (Failure ε) α) : EndsAlike failures values x x := by
  match x with
  | .ok a => exact .ok (hv a)
  | .error (.expected e) => exact .expected (hf e)
  | .error (.breakdown cause) => exact .breakdown _ _

/-- What breaks down if it fails has to fail on both sides. -/
theorem of_isOk {δ : Type} {failures : ε → ε → Prop} {values : α → α → Prop} {x y : Except δ α}
    (hok : x.isOk = y.isOk) (hvalues : ∀ a b, x = .ok a → y = .ok b → values a b)
    (cause : δ → Breakdown) :
    EndsAlike failures values (x.mapError fun e => .breakdown (cause e))
      (y.mapError fun e => .breakdown (cause e)) := by
  match x, y with
  | .ok a, .ok b => exact .ok (hvalues a b rfl rfl)
  | .ok a, .error e => exact nomatch hok
  | .error e, .ok b => exact nomatch hok
  | .error e, .error e' => exact .breakdown _ _

/-- Steps that end alike, one after another. -/
theorem bind {β : Type} {failures : ε → ε → Prop} {values : α → α → Prop} {values' : β → β → Prop}
    {x y : Except (Failure ε) α} {f g : α → Except (Failure ε) β} (h : EndsAlike failures values x y)
    (hfg : ∀ a b, values a b → EndsAlike failures values' (f a) (g b)) :
    EndsAlike failures values' (x >>= f) (y >>= g) := by
  cases h with
  | ok hab => exact hfg _ _ hab
  | expected hef => exact .expected hef
  | breakdown cause cause' => exact .breakdown _ _

end EndsAlike

end Fetch

open Fetch

namespace Run

variable {ε ε' α β : Type} {view : Log.Record → Log.Record} {failures : ε → ε → Prop}
  {failures' : ε' → ε' → Prop} {values : α → α → Prop} {values' : β → β → Prop}

structure Alike (view : Log.Record → Log.Record) (failures : ε → ε → Prop) (values : α → α → Prop)
    (x y : Run ε α) : Prop where
  records : x.records.map view = y.records.map view
  ends : EndsAlike failures values x.outcome y.outcome

/-! ## Steps -/

theorem alike_pure {a b : α} (h : values a b) : Alike view failures values (pure a) (pure b) :=
  ⟨rfl, .ok h⟩

theorem alike_fail {e f : ε} (h : failures e f) : Alike view failures values (fail e) (fail f) :=
  ⟨rfl, .expected h⟩

theorem alike_breakdown (cause cause' : Breakdown) :
    Alike view failures values (breakdown cause) (breakdown cause') :=
  ⟨rfl, .breakdown _ _⟩

theorem alike_told {r s : Log.Record} (h : view r = view s) :
    Alike view failures Eq (told r) (told s) :=
  ⟨congrArg ([·]) h, .ok rfl⟩

theorem alike_sent (r s : Request) : Alike view failures Eq (sent r) (sent s) :=
  ⟨rfl, .ok rfl⟩

theorem alike_ofExcept {x y : Except (Failure ε) α} (h : EndsAlike failures values x y) :
    Alike view failures values (ofExcept x) (ofExcept y) :=
  ⟨rfl, h⟩

/-- What was logged before comes first, however it goes on. -/
theorem alike_append {trace trace' : Trace} {next next' : Run ε α}
    (h : trace.records.map view = trace'.records.map view)
    (hnext : Alike view failures values next next') :
    Alike view failures values ⟨next.outcome, trace ++ next.trace⟩
      ⟨next'.outcome, trace' ++ next'.trace⟩ := by
  refine ⟨?_, hnext.ends⟩
  show (trace.records ++ next.records).map view = (trace'.records ++ next'.records).map view
  rw [List.map_append, List.map_append, h, hnext.records]

namespace Alike

variable {x y : Run ε α}

theorem mono {failures₁ : ε → ε → Prop} {values₁ : α → α → Prop}
    (h : Alike view failures values x y) (hf : ∀ e f, failures e f → failures₁ e f)
    (hv : ∀ a b, values a b → values₁ a b) : Alike view failures₁ values₁ x y := by
  obtain ⟨outcome, trace⟩ := x
  obtain ⟨outcome', trace'⟩ := y
  obtain ⟨hrecords, hends⟩ := h
  refine ⟨hrecords, ?_⟩
  cases hends with
  | ok hab => exact .ok (hv _ _ hab)
  | expected hef => exact .expected (hf _ _ hef)
  | breakdown => exact .breakdown _ _

/-! ## Sequences -/

theorem bind {f g : α → Run ε β} (h : Alike view failures values x y)
    (hfg : ∀ a b, values a b → Alike view failures values' (f a) (g b)) :
    Alike view failures values' (x >>= f) (y >>= g) := by
  obtain ⟨outcome, trace⟩ := x
  obtain ⟨outcome', trace'⟩ := y
  obtain ⟨hrecords, hends⟩ := h
  cases hends with
  | ok hab => exact alike_append hrecords (hfg _ _ hab)
  | expected hef => exact ⟨hrecords, .expected hef⟩
  | breakdown => exact ⟨hrecords, .breakdown _ _⟩

theorem either {onError onError' : ε → Run ε' β} {onValue onValue' : α → Run ε' β}
    (h : Alike view failures values x y)
    (herror : ∀ e f, failures e f → Alike view failures' values' (onError e) (onError' f))
    (hvalue : ∀ a b, values a b → Alike view failures' values' (onValue a) (onValue' b)) :
    Alike view failures' values' (x.either onError onValue) (y.either onError' onValue') := by
  obtain ⟨outcome, trace⟩ := x
  obtain ⟨outcome', trace'⟩ := y
  obtain ⟨hrecords, hends⟩ := h
  cases hends with
  | ok hab => exact alike_append hrecords (hvalue _ _ hab)
  | expected hef => exact alike_append hrecords (herror _ _ hef)
  | breakdown => exact ⟨hrecords, .breakdown _ _⟩

theorem told_bind {r s : Log.Record} (h : view r = view s) {f g : Unit → Run ε α}
    (hfg : Alike view failures values (f ()) (g ())) :
    Alike view failures values (told r >>= f) (told s >>= g) :=
  (alike_told h).bind fun _ _ _ => hfg

theorem mapError {φ : ε → ε'} (h : Alike view failures values x y) {ψ : ε → ε'}
    (hfail : ∀ e f, failures e f → failures' (φ e) (ψ f)) :
    Alike view failures' values (x.mapError φ) (y.mapError ψ) :=
  h.either (fun _ _ hef => alike_fail (hfail _ _ hef)) fun _ _ hab => alike_pure hab

end Alike

end Run

end ImageDiscovery
