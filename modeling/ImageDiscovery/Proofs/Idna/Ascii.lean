import ImageDiscovery.Idna
import ImageDiscovery.Proofs.Outcome
import ImageDiscovery.Proofs.Text.Lower
import ImageDiscovery.Proofs.Text.Split
import ImageDiscovery.Proofs.Text.Utf8

/-!
# ASCII — the wire form of a host's name

Whatever a name is made of, the form that it has on the wire is ASCII: full stops, and in the labels
between them lower-case letters, digits and hyphens.  A label that is ASCII passed the rules for labels
as it is or as what it stands for, and one that is not is written in punycode.
-/

namespace ImageDiscovery

/-! ## Punycode -/

namespace Punycode

theorem toNat_ofNat {n : Nat} (h : n < 0x80) : (Char.ofNat n).toNat = n := by
  have hvalid : n.isValidChar := .inl (by omega)
  rw [Char.ofNat, dif_pos hvalid]
  rfl

section

variable {P : Char → Prop} (hdigit : ∀ d < 36, P (digitChar d))

include hdigit

/-- What holds of all digits holds of all that a number is written with. -/
theorem forall_digits {bias place n : Nat} : ∀ c ∈ digits bias place n, P c := by
  induction place, n using digits.induct bias with
  | case1 place n t hlast =>
    have ht : t ≤ 26 := threshold_le place bias
    rw [digits, if_pos hlast, List.forall_mem_singleton]
    exact hdigit n (by omega)
  | case2 place n t hmore ih =>
    have ht : t ≤ 26 := threshold_le place bias
    -- a digit that is not the last is between its threshold and the base
    have hmod : (n - t) % (36 - t) < 36 - t := Nat.mod_lt _ (by omega)
    have hlt : t + (n - t) % (36 - t) < 36 := by omega
    rw [digits, if_neg hmore, List.forall_mem_cons]
    exact ⟨hdigit _ hlt, ih⟩

theorem Writer.forall_pass {w : Writer} (h : ∀ c ∈ w.out, P c) (basics point p : Nat) :
    ∀ c ∈ (w.pass basics point p).out, P c := by
  unfold pass
  split
  · exact h
  · split
    · rw [List.forall_mem_append]
      exact ⟨h, forall_digits hdigit⟩
    · exact h

theorem Writer.forall_foldl_pass {w : Writer} (h : ∀ c ∈ w.out, P c) (basics point : Nat)
    (label : List Nat) : ∀ c ∈ (label.foldl (pass basics point) w).out, P c := by
  induction label generalizing w with
  | nil => exact h
  | cons p rest ih => exact ih (forall_pass hdigit h basics point p)

theorem Writer.forall_insertAll {w : Writer} (h : ∀ c ∈ w.out, P c) (label : List Nat)
    (basics next : Nat) (points : List Nat) :
    ∀ c ∈ (insertAll label basics next w points).out, P c := by
  induction points generalizing next w with
  | nil => exact h
  | cons point rest ih =>
    -- waiting for a point writes nothing, so only the passes over the label count
    rw [insertAll]
    apply ih
    have hwaiting : ∀ c ∈ { w with delta := w.delta + (point - next) * (w.count + 1) }.out, P c := h
    exact forall_foldl_pass hdigit hwaiting basics point label

/-- A label is written with digits, a hyphen and its own ASCII. -/
theorem forall_encode (hhyphen : P '-') {label : List Nat}
    (hbasic : ∀ n ∈ label, n < 0x80 → P (Char.ofNat n)) : ∀ c ∈ encode label, P c := by
  have hbasics : ∀ c ∈ (label.filter (· < 0x80)).map Char.ofNat, P c := by
    intro c hc
    rcases List.mem_map.mp hc with ⟨n, hn, rfl⟩
    rw [List.mem_filter, decide_eq_true_eq] at hn
    exact hbasic n hn.1 hn.2
  unfold encode
  rw [List.forall_mem_append]
  constructor
  · split
    · exact nofun
    · rw [List.forall_mem_append, List.forall_mem_singleton]
      exact ⟨hbasics, hhyphen⟩
  · exact Writer.forall_insertAll hdigit (by exact nofun) label _ _ _

end

theorem isSome_of_readNumber {bias place weight sum n : Nat} {t rest : List Char}
    (h : readNumber bias place weight sum t = some (n, rest)) :
    ∀ c ∈ t, (digitValue? c).isSome = true ∨ c ∈ rest := by
  induction t generalizing place weight sum with
  | nil => exact nofun
  | cons c t ih =>
    unfold readNumber at h
    split at h
    · exact nomatch h
    · rename_i d hd
      rw [List.forall_mem_cons]
      refine ⟨.inl (by rw [hd]; rfl), ?_⟩
      simp only at h
      split at h
      · intro c hc
        cases h
        exact .inr hc
      · exact ih h

/-- Numbers are read to the end, and what is in place stays. -/
theorem of_insertAll {label points : List Nat} {position point bias : Nat} {first : Bool}
    {t : List Char} (h : insertAll label position point bias first t = some points) :
    (∀ n ∈ label, n ∈ points) ∧ ∀ c ∈ t, (digitValue? c).isSome = true := by
  induction hlength : t.length using Nat.strongRecOn generalizing label position point bias first t with
  | ind length ih =>
    unfold insertAll at h
    split at h
    · rename_i hempty
      rw [List.isEmpty_iff] at hempty
      rw [hempty]
      cases h
      exact ⟨fun n hn => hn, fun c hc => absurd hc List.not_mem_nil⟩
    · split at h
      · cases h
      · rename_i delta rest hread
        dsimp only at h
        split at h
        · cases h
        · have hshorter := length_lt_of_readNumber hread
          rcases ih rest.length (by omega) h rfl with ⟨hlabel, hrest⟩
          constructor
          · intro n hn
            apply hlabel
            rw [← List.take_append_drop ((position + delta) % (label.length + 1)) label] at hn
            rcases List.mem_append.mp hn with hn | hn
            · exact List.mem_append_left _ hn
            · exact List.mem_append_right _ (.tail _ hn)
          · intro c hc
            rcases isSome_of_readNumber hread c hc with hdigit | hc
            · exact hdigit
            · exact hrest c hc

/-- A label that can be read is written with digits, hyphens and ASCII that is in what it stands for. -/
theorem of_decode? {t : List Char} {points : List Nat} (h : decode? t = some points) :
    ∀ c ∈ t, (digitValue? c).isSome = true ∨ c = '-' ∨ c.toNat ∈ points := by
  unfold decode? at h
  dsimp only at h
  rcases of_insertAll h with ⟨hbasics, hafter⟩
  have hsplit := List.takeWhile_append_dropWhile (p := (· ≠ '-')) (l := t.reverse)
  generalize hback : t.reverse.dropWhile (· ≠ '-') = back at hsplit
  generalize t.reverse.takeWhile (· ≠ '-') = numbers at hsplit hbasics hafter
  have htext : t = back.reverse ++ numbers.reverse := by
    rw [← t.reverse_reverse, ← hsplit, List.reverse_append]
  intro c hc
  rw [htext, List.mem_append] at hc
  rcases hc with hc | hc
  · cases back with
    | nil => exact nomatch hc
    | cons hyphen basics =>
      -- what stands before the numbers ends in a hyphen
      have hhyphen : hyphen = '-' := by
        have hhead := List.head?_dropWhile_not (· ≠ '-') t.reverse
        rw [hback] at hhead
        simpa using hhead
      have htake : t.take (t.length - numbers.reverse.length - 1) = basics.reverse := by
        rw [htext, List.reverse_cons, List.append_assoc]
        apply List.take_left'
        simp only [List.length_append, List.length_reverse, List.length_singleton]
        omega
      rw [htake] at hbasics
      rw [List.reverse_cons, List.mem_append, List.mem_singleton, List.mem_reverse] at hc
      rcases hc with hc | rfl
      · exact .inr (.inr (hbasics _ (List.mem_map_of_mem (List.mem_reverse.mpr hc))))
      · exact .inr (.inl hhyphen)
  · exact .inl (hafter c hc)

end Punycode

/-! ## Names -/

namespace Idna

/-- Lower-case letters, digits and the hyphen, by their numbers. -/
def IsWirePoint (n : Nat) : Prop := n = 0x2D ∨ 0x30 ≤ n ∧ n ≤ 0x39 ∨ 0x61 ≤ n ∧ n ≤ 0x7A

instance (n : Nat) : Decidable (IsWirePoint n) := inferInstanceAs (Decidable (_ ∨ _))

theorem isWirePoint_digitChar {d : Nat} (h : d < 36) : IsWirePoint (Punycode.digitChar d).toNat := by
  have hall : ∀ d : Fin 36, IsWirePoint (Punycode.digitChar d).toNat := by decide
  exact hall ⟨d, h⟩

theorem isWirePoint_of_digitValue? {c : Char} (h : (Punycode.digitValue? c).isSome = true)
    (hcapital : ¬ IsCapital c.toNat) : IsWirePoint c.toNat := by
  unfold IsCapital at hcapital
  unfold Punycode.digitValue? at h
  unfold IsWirePoint
  dsimp only at h
  split at h
  · omega
  · split at h
    · omega
    · exact nomatch h

/-- Of ASCII, labels hold nothing else. -/
theorem isWirePoint_of_isValid {n : Nat} (h : isValid n = true) (hascii : n < 0x80) :
    IsWirePoint n := by
  rw [isValid, if_pos hascii] at h
  simp only [Bool.or_eq_true, Bool.and_eq_true, beq_iff_eq, decide_eq_true_eq, or_assoc] at h
  exact h

theorem isWirePoint_of_checkPoints {label t : Text} {before : List Nat}
    (h : checkPoints label before t = none) : ∀ p ∈ t, p.toNat < 0x80 → IsWirePoint p.toNat := by
  induction t generalizing before with
  | nil => exact nofun
  | cons p rest ih =>
    rw [checkPoints] at h
    rw [List.forall_mem_cons]
    -- joiners, and what needs company, are beyond ASCII
    split at h
    · rename_i hvalid
      exact ⟨fun hascii => isWirePoint_of_isValid hvalid hascii, ih h⟩
    · split at h
      · rename_i hjoiner
        split at h
        · refine ⟨fun hascii => ?_, ih h⟩
          simp only [isJoiner, Bool.or_eq_true, beq_iff_eq] at hjoiner
          omega
        · exact nomatch h
      · split at h
        · rename_i hcompany
          split at h
          · refine ⟨fun hascii => ?_, ih h⟩
            simp only [needsCompany, Bool.or_eq_true, Bool.and_eq_true, beq_iff_eq,
              decide_eq_true_eq] at hcompany
            omega
          · exact nomatch h
        · exact nomatch h

theorem isWirePoint_of_checked {label checkedLabel : Text} (h : checked label = .ok checkedLabel) :
    checkedLabel = label ∧ ∀ p ∈ label, p.toNat < 0x80 → IsWirePoint p.toNat := by
  unfold checked at h
  split at h
  · rename_i hcheck
    refine ⟨(Except.ok.inj h).symm, ?_⟩
    unfold checkLabel at hcheck
    split at hcheck
    · exact nomatch hcheck
    · repeat
        split at hcheck
        · exact nomatch hcheck
      exact isWirePoint_of_checkPoints (Option.or_eq_none_iff.mp hcheck).1
  · exact nomatch h

/-- An encoded label in lower case is made of wire points, as what it stands for is checked. -/
theorem isWirePoint_of_decoded {encoded label name : Text}
    (hlower : ∀ p ∈ encoded, p.asciiLower = p) (hascii : encoded.isAscii = true)
    (h : decoded encoded = .ok label) (hlabel : checked label = .ok name) :
    ∀ p ∈ encoded, IsWirePoint p.toNat := by
  unfold decoded at h
  split at h
  · exact nomatch h
  · split at h
    · exact nomatch h
    · split at h
      · exact nomatch h
      · rename_i points hpoints
        rcases Option.bind_eq_some_iff.mp hpoints with ⟨cs, hcs, hdecode⟩
        have hlabelText : label = points.filterMap CodePoint.ofNat? := (Except.ok.inj h).symm
        have htext : encoded = Text.ofChars cs := Text.eq_ofChars_of_toChars? hcs
        intro p hp
        have hp' : p.toNat < 0x80 := of_decide_eq_true (List.all_eq_true.mp hascii p hp)
        have hcapital : ¬ IsCapital p.toNat := CodePoint.not_isCapital_of_asciiLower (hlower p hp)
        rw [htext] at hp
        rcases List.mem_map.mp hp with ⟨c, hc, rfl⟩
        rcases Punycode.of_decode? hdecode c hc with hdigit | rfl | hmem
        · exact isWirePoint_of_digitValue? hdigit hcapital
        · exact .inl rfl
        · apply (isWirePoint_of_checked hlabel).2 _ _ hp'
          rw [hlabelText, List.mem_filterMap]
          exact ⟨_, hmem, CodePoint.ofNat?_toNat (.char c)⟩

theorem isWirePoint_labelToAscii {label encoded : Text} (hlower : ∀ p ∈ label, p.asciiLower = p)
    (h : labelToAscii label = .ok encoded) : ∀ p ∈ encoded, IsWirePoint p.toNat := by
  have hmark : ∀ p ∈ mark, IsWirePoint p.toNat := by decide
  unfold labelToAscii at h
  dsimp only at h
  split at h
  · -- the label is checked, and stays as it is
    rename_i hascii
    rcases exists_of_bind_eq_ok h with ⟨written, hwritten, h⟩
    rcases exists_of_map_eq_ok hwritten with ⟨name, hname, rfl⟩
    split at h
    · exact nomatch h
    · rw [← Except.ok.inj h]
      unfold labelToUnicode at hname
      rw [hascii, if_neg (by decide), Text.asciiLower_eq_self hlower] at hname
      dsimp only at hname
      split at hname
      · rename_i hprefix
        rcases List.isPrefixOf_iff_prefix.mp hprefix with ⟨rest, rfl⟩
        rcases exists_of_bind_eq_ok hname with ⟨stands, hdecoded, hchecked⟩
        rw [List.drop_left] at hdecoded
        rw [Text.isAscii, List.all_append, Bool.and_eq_true] at hascii
        rw [List.forall_mem_append] at hlower ⊢
        exact ⟨hmark, isWirePoint_of_decoded hlower.2 hascii.2 hdecoded hchecked⟩
      · intro p hp
        apply (isWirePoint_of_checked hname).2 p hp
        exact of_decide_eq_true (List.all_eq_true.mp hascii p hp)
  · rcases exists_of_bind_eq_ok h with ⟨written, hwritten, h⟩
    rcases exists_of_map_eq_ok hwritten with ⟨name, hname, rfl⟩
    split at h
    · exact nomatch h
    · rw [← Except.ok.inj h, List.forall_mem_append]
      refine ⟨hmark, ?_⟩
      intro p hp
      rcases List.mem_map.mp hp with ⟨c, hc, rfl⟩
      rcases isWirePoint_of_checked hname with ⟨rfl, hchecked⟩
      apply Punycode.forall_encode (fun d => isWirePoint_digitChar) (.inl rfl) _ c hc
      intro n hn hascii
      rcases List.mem_map.mp hn with ⟨q, hq, rfl⟩
      show IsWirePoint (Char.ofNat q.toNat).toNat
      rw [Punycode.toNat_ofNat hascii]
      exact hchecked q hq hascii

/-- The wire form of a name in lower case is made of full stops, and of what labels are made of. -/
theorem of_mem_toAscii {name encoded : Text} (hlower : ∀ p ∈ name, p.asciiLower = p)
    (h : toAscii name = .ok encoded) : ∀ p ∈ encoded, p = .char '.' ∨ IsWirePoint p.toNat := by
  unfold toAscii at h
  rcases exists_of_bind_eq_ok h with ⟨⟨converted, stops⟩, hconverted, h⟩
  have hencoded : converted = encoded := by
    dsimp only at h
    split at h
    · split at h
      · exact nomatch h
      · exact Except.ok.inj h
    · split at h
      · exact nomatch h
      · exact Except.ok.inj h
  unfold convert at hconverted
  dsimp only at hconverted
  split at hconverted
  · exact nomatch hconverted
  · rcases exists_of_map_eq_ok hconverted with ⟨labels, hlabels, hjoin⟩
    rw [← hencoded, ← (Prod.mk.inj hjoin).1]
    intro p hp
    rcases Text.of_mem_join hp with hp | ⟨label, hlabel, hp⟩
    · exact .inl (List.mem_singleton.mp hp)
    · right
      -- besides the labels there is at most an empty text
      have hlabel : label ∈ labels ∨ label = [] := by
        split at hlabel
        · simpa using hlabel
        · exact .inl hlabel
      rcases hlabel with hlabel | rfl
      · rcases exists_of_mem_mapM hlabels hlabel with ⟨written, hmem, hwritten⟩
        have hmem : written ∈ labelsOf name := by
          split at hmem
          · exact (List.dropLast_sublist _).subset hmem
          · exact hmem
        refine isWirePoint_labelToAscii ?_ hwritten p hp
        intro q hq
        -- stops of other scripts have become full stops
        rcases List.mem_map.mp (Text.mem_of_mem_split hmem hq) with ⟨q', hq', rfl⟩
        split
        · rfl
        · exact hlower q' hq'
      · exact nomatch hp

end Idna

end ImageDiscovery
