import ImageDiscovery.Html.Reference
import ImageDiscovery.Page
import Mathlib.Data.Bool.AllAny

/-!
# Escapes — values that are written into attributes and read back

Five characters are written as references.  What is written has no double quote in it, so it does not
end the attribute that it stands in, and with its references resolved it is what was to be written.
-/

namespace ImageDiscovery

open Html

namespace Page

/-- What may stand in double quotes for some characters. -/
structure StandsFor (written cs : List Char) : Prop where
  unquoted : '"' ∉ written
  reads : ∀ rest, decodeReferences (written ++ rest) = cs ++ decodeReferences rest
  /-- Writing brings in no character that is not read as it is. -/
  kept : ∀ c ∈ written, c ∈ cs ∨ c ≠ '\x00' ∧ c ≠ '\r'

theorem decodeReferences_reference {written rest : List Char} {c : Char}
    (h : Reference.read? (written ++ rest) = some ([c], rest)) :
    decodeReferences ('&' :: written ++ rest) = c :: decodeReferences rest := by
  rw [List.cons_append, decodeReferences, if_pos rfl]
  split
  · rename_i hread
    rw [h] at hread
    cases hread
    rfl
  · rename_i hread
    rw [h] at hread
    cases hread

theorem decodeReferences_cons {c : Char} (h : c ≠ '&') (rest : List Char) :
    decodeReferences (c :: rest) = c :: decodeReferences rest := by
  rw [decodeReferences, if_neg h]

theorem standsFor_reference {c : Char} {written : List Char}
    (hread : ∀ rest, Reference.read? (written ++ rest) = some ([c], rest))
    (hplain : ('&' :: written).all fun c => c ≠ '"' ∧ c ≠ '\x00' ∧ c ≠ '\r') :
    StandsFor ('&' :: written) [c] where
  unquoted := fun hmem => (List.all_iff_forall_prop.mp hplain _ hmem).1 rfl
  reads := fun rest => decodeReferences_reference (hread rest)
  kept := fun c hc => .inr (List.all_iff_forall_prop.mp hplain c hc).2

theorem standsFor_self {c : Char} (hreference : c ≠ '&') (hquote : c ≠ '"') : StandsFor [c] [c] where
  unquoted := fun hmem => hquote (List.mem_singleton.mp hmem).symm
  reads := decodeReferences_cons hreference
  kept := fun _ hc => .inl hc

theorem StandsFor.append {xs ys cs ds : List Char} (hx : StandsFor xs cs) (hy : StandsFor ys ds) :
    StandsFor (xs ++ ys) (cs ++ ds) where
  unquoted := by
    rw [List.mem_append, not_or]
    exact ⟨hx.unquoted, hy.unquoted⟩
  reads := fun rest => by rw [List.append_assoc, hx.reads, hy.reads, List.append_assoc]
  kept := by
    intro c hc
    obtain hc | hc := List.mem_append.mp hc
    · exact (hx.kept c hc).imp_left (List.mem_append_left ds)
    · exact (hy.kept c hc).imp_left (List.mem_append_right cs)

theorem StandsFor.decodeReferences_eq {written cs : List Char} (h : StandsFor written cs) :
    decodeReferences written = cs := by
  have hread := h.reads []
  rwa [List.append_nil, decodeReferences, List.append_nil] at hread

/-! ## Writing -/

theorem exists_standsFor_escaped (c : Char) :
    ∃ written, escaped (.char c) = Text.ofChars written ∧ StandsFor written [c] := by
  unfold escaped
  split <;> rename_i hc
  · cases hc
    exact ⟨"&amp;".toList, rfl, standsFor_reference (fun _ => rfl) (by decide)⟩
  · cases hc
    exact ⟨"&lt;".toList, rfl, standsFor_reference (fun _ => rfl) (by decide)⟩
  · cases hc
    exact ⟨"&gt;".toList, rfl, standsFor_reference (fun _ => rfl) (by decide)⟩
  · cases hc
    exact ⟨"&quot;".toList, rfl, standsFor_reference (fun _ => rfl) (by decide)⟩
  · cases hc
    exact ⟨"&#x27;".toList, rfl, standsFor_reference (fun _ => rfl) (by decide)⟩
  · rename_i hreference _ _ hquote
    exact ⟨[c], rfl, standsFor_self (fun e => hreference (by rw [e])) fun e => hquote (by rw [e])⟩

theorem exists_standsFor_escape (cs : List Char) :
    ∃ written, escape (Text.ofChars cs) = Text.ofChars written ∧ StandsFor written cs := by
  induction cs with
  | nil => exact ⟨[], rfl, by simp, fun _ => rfl, by simp⟩
  | cons c cs ih =>
    obtain ⟨first, hfirst, hc⟩ := exists_standsFor_escaped c
    obtain ⟨rest, hrest, hcs⟩ := ih
    refine ⟨first ++ rest, ?_, hc.append hcs⟩
    rw [Text.ofChars, List.map_cons, escape, List.flatMap_cons, hfirst, Text.ofChars, Text.ofChars,
      List.map_append]
    exact congrArg _ hrest

end Page

end ImageDiscovery
