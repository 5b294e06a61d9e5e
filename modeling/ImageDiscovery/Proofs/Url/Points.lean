import ImageDiscovery.Proofs.App.Namespaces
import ImageDiscovery.Proofs.Idna.Ascii
import ImageDiscovery.Proofs.Url.Percent
import ImageDiscovery.Url

/-!
# Points — what may stand in the parts of a URL

A part of a URL that is written in percent escapes holds percent signs, points that may stand in every
part, and those that are allowed in this one.  A host is written in one of a few forms, and each of them
leaves out the marks around a host.
-/

namespace ImageDiscovery

namespace Percent

variable {allowed : CodePoint → Bool}

theorem of_mem_encode {t : Text} {p : CodePoint} (h : p ∈ encode allowed t) :
    p = .char '%' ∨ isUnreserved p = true ∨ allowed p = true := by
  rcases List.mem_flatMap.mp h with ⟨q, -, hp⟩
  unfold encodePoint at hp
  split at hp
  · rename_i hq
    rw [List.mem_singleton.mp hp]
    exact .inr (by simpa using hq)
  · rcases List.mem_flatMap.mp hp with ⟨b, -, hp⟩
    exact (of_mem_encodeByte hp).imp_right .inl

/-- What is neither allowed nor needed for escapes does not stand in an encoded text. -/
theorem not_mem_encode {p : CodePoint}
    (h : p ≠ .char '%' ∧ isUnreserved p = false ∧ allowed p = false) (t : Text) :
    p ∉ encode allowed t := by
  intro hp
  have hform := of_mem_encode hp
  simp [h] at hform

theorem encode_eq_self {t : Text} (h : ∀ p ∈ t, (isUnreserved p || allowed p) = true) :
    encode allowed t = t := by
  induction t with
  | nil => rfl
  | cons p rest ih =>
    have hp : encodePoint allowed p = [p] := if_pos (h p List.mem_cons_self)
    have hrest : encode allowed rest = rest := ih fun q hq => h q (.tail _ hq)
    rw [encode, List.flatMap_cons, hp]
    exact congrArg (p :: ·) hrest

theorem isAscii_of_inHost {p : CodePoint} (h : inHost p = true) : p.isAscii = true := by
  have hmarks : ∀ q ∈ Text.ofString "!$&'()*+,;=\"`\x7b\x7d%|\\", q.isAscii = true := by decide
  rw [inHost, Bool.or_eq_true, decide_eq_true_eq] at h
  exact h.elim isAscii_of_isUnreserved (hmarks p)

theorem isAscii_of_printableBut {excluded : String} {p : CodePoint}
    (h : printableBut excluded p = true) : p.isAscii = true := by
  simp only [printableBut, Bool.and_eq_true, decide_eq_true_eq] at h
  exact decide_eq_true (by omega)

theorem isAscii_encode (h : ∀ p, allowed p = true → p.isAscii = true) (t : Text) :
    (encode allowed t).isAscii = true := by
  rw [Text.isAscii, List.all_eq_true]
  intro p hp
  rcases of_mem_encode hp with rfl | hp | hp
  · rfl
  · exact isAscii_of_isUnreserved hp
  · exact h p hp

end Percent

namespace Address

theorem of_mem_of_isIpv4 {t : Text} (h : isIpv4 t = true) {p : CodePoint} (hp : p ∈ t) :
    p.isDigit = true ∨ p = .char '.' := by
  unfold isIpv4 at h
  rw [Bool.and_eq_true, List.all_eq_true] at h
  rw [← Text.join_split (.char '.') t] at hp
  rcases Text.of_mem_join hp with hp | ⟨octet, hoctet, hp⟩
  · exact .inr (List.mem_singleton.mp hp)
  · have hdigits := h.2 octet hoctet
    simp only [isOctet, Bool.and_eq_true] at hdigits
    exact .inl (List.all_eq_true.mp hdigits.1.1.1.2 p hp)

theorem splitGap_of_not_mem {t : Text} (h : CodePoint.char ':' ∉ t) : splitGap t = (t, none) := by
  induction t with
  | nil => rfl
  | cons p rest ih =>
    cases rest with
    | nil => rfl
    | cons q rest =>
      have hp : ¬ (p = .char ':' ∧ q = .char ':') := fun e => h (by simp [e.1])
      rw [splitGap, if_neg hp, ih fun m => h (.tail _ m)]

/-- There are eight groups in an IPv6 address or a gap, so colons part them. -/
theorem colon_mem_of_isIpv6 {t : Text} (h : isIpv6 t = true) : CodePoint.char ':' ∈ t := by
  apply Decidable.byContradiction
  intro hnot
  cases hcut : t.cut (.char '%') with
  | mk address zone =>
    have haddress : CodePoint.char ':' ∉ address := by
      intro hmem
      apply hnot
      cases zone with
      | none => rwa [(Text.cut_eq_none hcut).1] at hmem
      | some zone =>
        rw [(Text.cut_eq_some hcut).1]
        exact List.mem_append_left _ hmem
    -- so there is no gap, and the whole address is one group
    unfold isIpv6 at h
    simp only [hcut, splitGap_of_not_mem haddress, Bool.and_eq_true, decide_eq_true_eq,
      Bool.not_eq_true', List.isEmpty_eq_false_iff] at h
    have hgroups : groupsOf address = [address] := by
      rw [groupsOf, if_neg (by simpa using h.1.2.1), Text.split_of_not_mem haddress]
    have hcount := h.1.2.2
    rw [hgroups] at hcount
    -- one group counts for two at most
    unfold countGroups at hcount
    simp only [List.getLast?_singleton] at hcount
    split at hcount
    · split at hcount
      · exact absurd (Option.some.inj hcount) (by simp [groupCount])
      · exact nomatch hcount
    · split at hcount
      · exact absurd (Option.some.inj hcount) (by simp [groupCount])
      · exact nomatch hcount

end Address

namespace Url

/-! ## Plain texts -/

/-- Points that may stand everywhere, in lower case. -/
def IsPlain (t : Text) : Prop := ∀ p ∈ t, Percent.isUnreserved p = true ∧ p.asciiLower = p

theorem IsPlain.not_mem {t : Text} {p : CodePoint} (h : IsPlain t) (hp : Percent.isUnreserved p = false) :
    p ∉ t := by
  intro hmem
  rw [(h p hmem).1] at hp
  exact nomatch hp

theorem IsPlain.encode_eq {t : Text} (h : IsPlain t) (allowed : CodePoint → Bool) :
    Percent.encode allowed t = t :=
  Percent.encode_eq_self fun p hp => by rw [(h p hp).1, Bool.true_or]

theorem IsPlain.isAscii {t : Text} (h : IsPlain t) : t.isAscii = true :=
  List.all_eq_true.mpr fun p hp => Percent.isAscii_of_isUnreserved (h p hp).1

/-! ## Hosts -/

/-- How a host is written, and what it is read as. -/
inductive HostForm (written host : Text) : Prop where
  | empty (h : written = []) (heq : host = [])
  | ipv4 (h : Address.isIpv4 written = true) (heq : host = written)
  | ipv6 (h : Address.isIpv6 host = true) (heq : written = inBrackets host)
  | ascii (h : written.isAscii = true)
    (heq : host = Percent.encode Percent.inHost written.asciiLower)
  | idna (h : written.isAscii = false) (hbrackets : isInBrackets written = false)
    (heq : Idna.toAscii written.lower = .ok host)

theorem isPlain_of_isIpv4 {t : Text} (h : Address.isIpv4 t = true) : IsPlain t := by
  intro p hp
  rcases Address.of_mem_of_isIpv4 h hp with hdigit | rfl
  · have hnumber := hdigit
    simp only [CodePoint.isDigit, Bool.and_eq_true, decide_eq_true_eq] at hnumber
    constructor
    · simp [Percent.isUnreserved, hdigit]
    · exact CodePoint.asciiLower_of_not_upper (by omega)
  · decide

/-- Names on the wire are plain. -/
theorem isPlain_toAscii {name host : Text} (h : Idna.toAscii name.lower = .ok host) : IsPlain host := by
  intro p hp
  have hpoints := Idna.of_mem_toAscii (fun q => Text.asciiLower_of_mem_lower) h p hp
  rcases hpoints with rfl | hwire
  · decide
  · unfold Idna.IsWirePoint at hwire
    constructor
    · rcases hwire with hhyphen | hwire
      · obtain rfl : p = .char '-' := CodePoint.toNat_inj hhyphen
        decide
      · simp only [Percent.isUnreserved, CodePoint.isLetter, CodePoint.isDigit, Bool.or_eq_true,
          Bool.and_eq_true, decide_eq_true_eq]
        omega
    · exact CodePoint.asciiLower_of_not_upper (by omega)

theorem eq_inBrackets {t : Text} (hfirst : t.head? = some (.char '['))
    (hlast : t.getLast? = some (.char ']')) : t = inBrackets t.tail.dropLast := by
  rcases List.getLast?_eq_some_iff.mp hlast with ⟨front, rfl⟩
  cases front with
  | nil => exact absurd hfirst (by decide)
  | cons p rest =>
    have hp : p = .char '[' := Option.some.inj hfirst
    rw [hp, List.cons_append, List.tail_cons, List.dropLast_concat]
    rfl

theorem hostForm_of_encodeHost {written host : Text} (h : encodeHost written = .ok host) :
    HostForm written host := by
  unfold encodeHost at h
  by_cases hempty : written.isEmpty = true
  · rw [if_pos hempty] at h
    exact .empty (List.isEmpty_iff.mp hempty) (Except.ok.inj h).symm
  rw [if_neg hempty] at h
  by_cases hnumeric : Address.looksNumeric written = true
  · rw [if_pos hnumeric] at h
    split at h
    · rename_i hipv4
      exact .ipv4 hipv4 (Except.ok.inj h).symm
    · exact nomatch h
  rw [if_neg hnumeric] at h
  by_cases hbrackets : (written.head? = some (.char '[') && written.getLast? = some (.char ']')) = true
  · rw [if_pos hbrackets] at h
    rw [Bool.and_eq_true, decide_eq_true_eq, decide_eq_true_eq] at hbrackets
    dsimp only at h
    split at h
    · rename_i hipv6
      have hhost : written.tail.dropLast = host := Except.ok.inj h
      exact .ipv6 (hhost ▸ hipv6) (hhost ▸ eq_inBrackets hbrackets.1 hbrackets.2)
    · exact nomatch h
  rw [if_neg hbrackets] at h
  by_cases hascii : written.isAscii = true
  · rw [if_pos hascii] at h
    exact .ascii hascii (Except.ok.inj h).symm
  · rw [if_neg hascii] at h
    rw [Bool.not_eq_true] at hascii hbrackets
    refine .idna hascii ?_ (eq_ok_of_mapError_eq_ok h)
    rw [isInBrackets, Bool.and_assoc, hbrackets, Bool.and_false]

end Url

end ImageDiscovery
