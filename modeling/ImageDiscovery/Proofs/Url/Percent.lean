import ImageDiscovery.Proofs.Text.Split
import ImageDiscovery.Proofs.Text.Utf8
import ImageDiscovery.Url.Percent

/-!
# Percent — escapes that are read as they were written

A byte is written as a percent sign and two digits, and read from these three points.  The form of a
value writes a space as a plus sign and escapes every plus sign, so reading the plus signs as spaces
first takes nothing from the value.
-/

namespace ImageDiscovery

namespace Percent

/-! ## Digits and bytes -/

theorem isUnreserved_hexDigit {n : Nat} (h : n < 16) :
    isUnreserved (.char (Nat.digitChar n).toUpper) = true := by
  have hall : ∀ d : Fin 16, isUnreserved (.char (Nat.digitChar d).toUpper) = true := by decide
  exact hall ⟨n, h⟩

theorem hexValue?_hexDigit {n : Nat} (h : n < 16) :
    (CodePoint.char (Nat.digitChar n).toUpper).hexValue? = some n := by
  have hall : ∀ d : Fin 16, (CodePoint.char (Nat.digitChar d).toUpper).hexValue? = some d.val := by
    decide
  exact hall ⟨n, h⟩

theorem of_mem_encodeByte {b : UInt8} {p : CodePoint} (h : p ∈ encodeByte b) :
    p = .char '%' ∨ isUnreserved p = true := by
  have hb : b.toNat < 256 := b.toNat_lt
  have hdigits : p = .char '%' ∨ p ∈ hexByte b := List.mem_cons.mp h
  apply hdigits.imp_right
  intro hp
  rw [hexByte, List.mem_cons, List.mem_singleton] at hp
  rcases hp with rfl | rfl
  · exact isUnreserved_hexDigit (by omega)
  · exact isUnreserved_hexDigit (by omega)

theorem toBytes_encodeByte (b : UInt8) (rest : Text) :
    toBytes (encodeByte b ++ rest) = b :: toBytes rest := by
  have hb : b.toNat < 256 := b.toNat_lt
  have hfirst := hexValue?_hexDigit (n := b.toNat / 16) (by omega)
  have hsecond := hexValue?_hexDigit (n := b.toNat % 16) (by omega)
  unfold encodeByte hexByte
  simp only [List.cons_append, List.nil_append, toBytes, hfirst, hsecond]
  show UInt8.ofNat (16 * (b.toNat / 16) + b.toNat % 16) :: toBytes rest = b :: toBytes rest
  rw [Nat.div_add_mod, UInt8.ofNat_toNat]

theorem toBytes_encodeBytes (bs : Bytes) (rest : Text) :
    toBytes (bs.flatMap encodeByte ++ rest) = bs ++ toBytes rest := by
  induction bs with
  | nil => rfl
  | cons b bs ih =>
    rw [List.flatMap_cons, List.append_assoc, toBytes_encodeByte, ih, List.cons_append]

/-- What is no percent sign stands for itself. -/
theorem toBytes_cons {p : CodePoint} (h : p ≠ .char '%') (rest : Text) :
    toBytes (p :: rest) = UInt8.ofNat p.toNat :: toBytes rest := by
  rw [toBytes]
  intro _ _ _ hp
  exact absurd hp h

theorem isAscii_of_isUnreserved {p : CodePoint} (h : isUnreserved p = true) : p.isAscii = true := by
  simp only [isUnreserved, CodePoint.isLetter, CodePoint.isDigit, Bool.or_eq_true,
    Bool.and_eq_true, decide_eq_true_eq] at h
  rcases h with ((((h | h) | rfl) | rfl) | rfl) | rfl
  · exact decide_eq_true (by omega)
  · exact decide_eq_true (by omega)
  all_goals rfl

/-! ## Texts that stand for themselves -/

theorem decodeFrom_of_isAscii {t : Text} (h : t.isAscii = true) (piece : Text) :
    decodeFrom piece t = decodeFrom.flush (t.reverse ++ piece) := by
  induction t generalizing piece with
  | nil => rfl
  | cons p rest ih =>
    rw [Text.isAscii, List.all_cons, Bool.and_eq_true] at h
    rw [decodeFrom, if_pos h.1, ih h.2, List.reverse_cons, List.append_assoc]
    rfl

theorem toBytes_of_isAscii {t : Text} (h : t.isAscii = true) (hpercent : CodePoint.char '%' ∉ t) :
    toBytes t = t.utf8 := by
  induction t with
  | nil => rfl
  | cons p rest ih =>
    rw [Text.isAscii, List.all_cons, Bool.and_eq_true] at h
    rw [List.mem_cons, not_or] at hpercent
    have hone : Utf8.encodeNat p.toNat = [UInt8.ofNat p.toNat] := by
      rw [Utf8.encodeNat, if_pos (of_decide_eq_true h.1)]
    rw [toBytes_cons (Ne.symm hpercent.1), ih h.2 hpercent.2, Text.utf8, Text.utf8, List.flatMap_cons,
      hone]
    rfl

/-- What is ASCII and has no escapes is read as it is written. -/
theorem decode_eq_self {t : Text} (h : t.isAscii = true) (hpercent : CodePoint.char '%' ∉ t) :
    decode t = t := by
  have hchars : t.Encodable := by
    intro p hp
    have hp' : p.toNat < 0x80 := of_decide_eq_true (List.all_eq_true.mp h p hp)
    cases p with
    | char c => rfl
    | lone half =>
      have hnumber : (CodePoint.lone half).toNat = 0xD800 + half.val := rfl
      omega
  rcases Text.exists_ofChars_of_encodable hchars with ⟨cs, hcs⟩
  rw [decode, decodeFrom_of_isAscii h, decodeFrom.flush, List.append_nil, List.reverse_reverse,
    toBytes_of_isAscii h hpercent]
  rw [hcs, Utf8.decodeSubparts, Text.decode_utf8]

/-! ## Values of forms -/

/-- What stands for a code point when no mark may stand for itself. -/
theorem toBytes_encodePoint (p : CodePoint) (rest : Text) :
    toBytes (encodePoint (fun _ => false) p ++ rest) = Utf8.encodeNat p.toNat ++ toBytes rest := by
  rw [encodePoint, Bool.or_false]
  by_cases hp : isUnreserved p = true
  · have hascii : p.toNat < 0x80 := of_decide_eq_true (isAscii_of_isUnreserved hp)
    have hne : p ≠ .char '%' := fun e => absurd (e ▸ hp) (by decide)
    rw [if_pos hp, List.singleton_append, toBytes_cons hne, Utf8.encodeNat, if_pos hascii]
    rfl
  · rw [if_neg hp, toBytes_encodeBytes]

theorem plus_not_mem_encodePoint (p : CodePoint) :
    .char '+' ∉ encodePoint (fun _ => false) p := by
  have hplus : isUnreserved (.char '+') = false := by decide
  rw [encodePoint, Bool.or_false]
  intro hmem
  split at hmem
  · rename_i hp
    rw [← List.mem_singleton.mp hmem, hplus] at hp
    exact nomatch hp
  · obtain ⟨b, -, hb⟩ := List.mem_flatMap.mp hmem
    have hform := of_mem_encodeByte hb
    simp [hplus] at hform

theorem toBytes_encodeValue (t : Text) :
    toBytes ((encodeValue t).replace (.char '+') [.char ' ']) = t.utf8 := by
  induction t with
  | nil => rfl
  | cons p t ih =>
    rw [encodeValue, List.flatMap_cons, Text.replace_append, Text.utf8, List.flatMap_cons]
    by_cases hp : p = .char ' '
    · have hspace : Text.replace [.char '+'] (.char '+') [.char ' '] = [.char ' '] := rfl
      rw [if_pos hp, hspace, List.singleton_append, toBytes_cons (by decide), hp]
      exact congrArg (0x20 :: ·) ih
    · -- only spaces become plus signs, so here none is read as a space
      rw [if_neg hp, Text.replace_of_not_mem (plus_not_mem_encodePoint p), toBytes_encodePoint]
      exact congrArg (Utf8.encodeNat p.toNat ++ ·) ih

/-- **Values pass through forms.**  A text that has a UTF-8 form is read back from its percent form. -/
theorem decodeValue?_encodeValue {t : Text} (h : t.Encodable) :
    decodeValue? (encodeValue t) = some t := by
  obtain ⟨cs, rfl⟩ := Text.exists_ofChars_of_encodable h
  rw [decodeValue?, toBytes_encodeValue, Text.decode?_utf8]
  rfl

end Percent

end ImageDiscovery
