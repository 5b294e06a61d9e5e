import ImageDiscovery.Fetch.Request
import ImageDiscovery.Log
import ImageDiscovery.Proofs.Mapping
import ImageDiscovery.Proofs.Outcome

/-!
# Secrets — headers that a log does not tell apart

Headers may differ in the values of secrets.  Out of debug mode they are logged as the same members, and if
these values are both ASCII or both not, both can be sent or neither.
-/

namespace ImageDiscovery

namespace Log

/-- Two values of a header.  They differ only if its name is that of a secret. -/
def SecretAlike (name value value' : Text) : Prop :=
  value = value' ∨ isSecret name = true ∧ value.isAscii = value'.isAscii

theorem SecretAlike.isAscii_eq {name value value' : Text} (h : SecretAlike name value value') :
    value.isAscii = value'.isAscii := by
  obtain rfl | ⟨-, hascii⟩ := h
  · rfl
  · exact hascii

variable {headers headers' : Mapping Text}

theorem redactMembers_eq_map (members : List (Text × Json)) :
    redactMembers members = members.map fun (key, value) =>
      (key, if isSecret key then .text redacted else redactValue value) := by
  induction members with
  | nil => rfl
  | cons member rest ih => exact congrArg (_ :: ·) ih

/-- **Secrets are not logged.**  Out of debug mode, headers that differ in secrets are logged alike. -/
theorem redact_eq_of_alike {env : Environment} (hdebug : debugMode env = false)
    (h : headers.Alike SecretAlike headers') :
    redact env (headers.toList.map fun (name, value) => (name, .text value)) =
      redact env (headers'.toList.map fun (name, value) => (name, .text value)) := by
  rw [redact, redact, hdebug, if_neg Bool.false_ne_true, if_neg Bool.false_ne_true,
    redactMembers_eq_map, redactMembers_eq_map, List.map_map, List.map_map]
  apply h.map_eq
  intro name value value' hvalue
  obtain rfl | ⟨hsecret, -⟩ := hvalue
  · rfl
  · show (name, if isSecret name = true then _ else _) = (name, if isSecret name = true then _ else _)
    rw [if_pos hsecret, if_pos hsecret]

end Log

namespace Fetch

variable {headers headers' : Mapping Text}

theorem notAscii_isNone (t : Text) : t.notAscii.isNone = t.isAscii := by
  rw [Bool.eq_iff_iff, Option.isNone_iff_eq_none, Text.isAscii, List.all_eq_true]
  exact Text.refused_eq_none_iff

theorem Headers.isOk_ofConfigured (headers : Mapping Text) :
    (Headers.ofConfigured headers).isOk =
      headers.toList.all fun (name, value) => name.isAscii && value.isAscii := by
  rw [ofConfigured, isOk_mapM]
  congr 1
  funext header
  dsimp only
  rw [← notAscii_isNone, ← notAscii_isNone]
  cases header.1.notAscii with
  | some u => rfl
  | none => cases header.2.notAscii <;> rfl

/-- Headers that differ in secrets can be sent both, or neither. -/
theorem Headers.isOk_ofConfigured_of_alike (h : headers.Alike Log.SecretAlike headers') :
    (Headers.ofConfigured headers).isOk = (Headers.ofConfigured headers').isOk := by
  have hascii : headers.toList.map (fun (name, value) => name.isAscii && value.isAscii) =
      headers'.toList.map fun (name, value) => name.isAscii && value.isAscii := by
    apply h.map_eq
    intro name value value' hvalue
    show (name.isAscii && value.isAscii) = (name.isAscii && value'.isAscii)
    rw [hvalue.isAscii_eq]
  rw [isOk_ofConfigured, isOk_ofConfigured]
  simpa [List.all_map] using congrArg (List.all · id) hascii

theorem isOk_make? (url : Url) (agent : Text) (headers : Mapping Text) (verified : Bool) :
    (Request.make? url agent headers verified).isOk =
      (agent.isAscii && (Headers.ofConfigured headers).isOk) := by
  rw [← notAscii_isNone, Request.make?]
  cases agent.notAscii with
  | some u => rfl
  | none =>
    cases Headers.ofConfigured headers with
    | error e => rfl
    | ok sent => rfl

end Fetch

end ImageDiscovery
