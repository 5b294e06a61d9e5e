import ImageDiscovery.Proofs.Text.Split
import ImageDiscovery.Url.Address

/-!
# Numeric hosts — what must be an IPv4 address

A host of four numbers with full stops between them has to be an IPv4 address.  Numbers with anything else
between them, more numbers or fewer, are names like any others.
-/

namespace ImageDiscovery

namespace Address

/-- One digit or more. -/
structure IsNumber (t : Text) : Prop where
  ne_nil : t ≠ []
  digits : ∀ p ∈ t, p.isDigit = true

/-- Four numbers with full stops between them. -/
def IsDotted (t : Text) : Prop :=
  ∃ numbers : List Text, numbers.length = 4 ∧ (∀ number ∈ numbers, IsNumber number) ∧
    t = Text.join "." numbers

variable {t : Text}

theorem isNumber_iff : isNumber t = true ↔ IsNumber t := by
  rw [isNumber, Bool.and_eq_true, Bool.not_eq_true', List.isEmpty_eq_false_iff, List.all_eq_true]
  exact ⟨fun h => ⟨h.1, h.2⟩, fun h => ⟨h.ne_nil, h.digits⟩⟩

theorem IsNumber.stop_not_mem (h : IsNumber t) : CodePoint.char '.' ∉ t := fun hmem =>
  absurd (h.digits _ hmem) (by decide)

/-- Just the hosts of four numbers have to be IPv4 addresses. -/
theorem looksNumeric_iff : looksNumeric t = true ↔ IsDotted t := by
  unfold looksNumeric
  dsimp only
  rw [Bool.and_eq_true, decide_eq_true_eq, List.all_eq_true]
  constructor
  · intro h
    exact ⟨t.split (.char '.'), h.1, fun number hmem => isNumber_iff.mp (h.2 number hmem),
      (Text.join_split _ t).symm⟩
  · intro h
    rcases h with ⟨numbers, hlength, hnumbers, ht⟩
    -- no number has a full stop in it, so the host is cut into the numbers again
    have hsplit : t.split (.char '.') = numbers := by
      rw [ht]
      exact Text.split_join (List.ne_nil_of_length_pos (by omega)) fun number hmem =>
        (hnumbers number hmem).stop_not_mem
    rw [hsplit]
    exact ⟨hlength, fun number hmem => isNumber_iff.mpr (hnumbers number hmem)⟩

-- other marks do not make an address of numbers, and an address may be none that there is
example : looksNumeric "1-2-3-4" = false ∧ looksNumeric "1.2.3.400" = true := by decide

/-- Nothing but digits and full stops stands in a host of four numbers. -/
theorem IsDotted.of_mem (h : IsDotted t) {p : CodePoint} (hp : p ∈ t) :
    p.isDigit = true ∨ p = .char '.' := by
  rcases h with ⟨numbers, -, hnumbers, rfl⟩
  rcases Text.of_mem_join hp with hstop | ⟨number, hmem, hp⟩
  · exact .inr (List.mem_singleton.mp hstop)
  · exact .inl ((hnumbers number hmem).digits p hp)

end Address

end ImageDiscovery
