import ImageDiscovery.Json.Reader
import ImageDiscovery.Proofs.Text.Utf8

/-!
# Quoted texts — read as they were written, up to halves of pairs

Every code point is written as itself or as one or two escapes in ASCII, and read from them again.  Two
halves of a surrogate pair that stand next to each other are written like the character they make, so
they are read as that character; a text without halves is read as itself.
-/

namespace ImageDiscovery

namespace Json

/-! ## Escapes -/

theorem hexValue?_digitChar {n : Nat} (h : n < 16) :
    (CodePoint.char (Nat.digitChar n)).hexValue? = some n := by
  have hall : ∀ d : Fin 16, (CodePoint.char (Nat.digitChar d)).hexValue? = some d.val := by decide
  exact hall ⟨n, h⟩

/-- The last of many digits stands behind the digits of the rest. -/
theorem pad_toDigits {width : Nat} (hwidth : width ≠ 0) (n : Nat) :
    Decimal.pad (width + 1) (Nat.toDigits 16 n) =
      Decimal.pad width (Nat.toDigits 16 (n / 16)) ++ [Nat.digitChar (n % 16)] := by
  unfold Decimal.pad
  by_cases hn : n < 16
  · obtain ⟨more, rfl⟩ := Nat.exists_eq_succ_of_ne_zero hwidth
    have hzero : Nat.toDigits 16 (n / 16) = ['0'] := by
      rw [Nat.div_eq_of_lt hn]
      rfl
    rw [Nat.toDigits_of_lt_base hn, hzero, Nat.mod_eq_of_lt hn]
    show List.replicate (more + 1) '0' ++ _ = List.replicate more '0' ++ ['0'] ++ _
    rw [List.replicate_succ']
  · rw [Nat.toDigits_of_base_le (by decide) (Nat.not_lt.mp hn), List.length_append,
      List.length_singleton, Nat.add_sub_add_right, List.append_assoc]

/-- Four digits, with zeros in front. -/
theorem unitEscape_eq {n : Nat} (h : n < 0x10000) :
    unitEscape n = .char '\\' :: .char 'u' ::
      Text.ofChars [Nat.digitChar (n / 0x1000), Nat.digitChar (n / 0x100 % 16),
        Nat.digitChar (n / 0x10 % 16), Nat.digitChar (n % 16)] := by
  have hfirst : Nat.toDigits 16 (n / 0x1000) = [Nat.digitChar (n / 0x1000)] :=
    Nat.toDigits_of_lt_base (by omega)
  have hdigits : Decimal.pad 4 (Nat.toDigits 16 n) =
      [Nat.digitChar (n / 0x1000), Nat.digitChar (n / 0x100 % 16), Nat.digitChar (n / 0x10 % 16),
        Nat.digitChar (n % 16)] := by
    rw [pad_toDigits (by decide), pad_toDigits (by decide), pad_toDigits (by decide)]
    simp only [Nat.div_div_eq_div_mul, Nat.reduceMul]
    rw [hfirst]
    rfl
  exact congrArg (fun digits => "\\u" ++ Text.ofChars digits) hdigits

theorem length_unitEscape {n : Nat} (h : n < 0x10000) : (unitEscape n).length = 6 := by
  rw [unitEscape_eq h]
  rfl

theorem hex4?_unit {n : Nat} (h : n < 0x10000) (rest : Text) :
    ∃ digits, unitEscape n ++ rest = .char '\\' :: .char 'u' :: digits ∧ hex4? digits = some (n, rest) := by
  refine ⟨_, by rw [unitEscape_eq h]; rfl, ?_⟩
  have hnumber : ((n / 0x1000 * 16 + n / 0x100 % 16) * 16 + n / 0x10 % 16) * 16 + n % 16 = n := by
    omega
  show (CodePoint.hexValue? _ >>= fun _ => CodePoint.hexValue? _ >>= fun _ =>
    CodePoint.hexValue? _ >>= fun _ => CodePoint.hexValue? _ >>= fun _ => _) = _
  rw [hexValue?_digitChar (by omega), hexValue?_digitChar (by omega), hexValue?_digitChar (by omega),
    hexValue?_digitChar (by omega)]
  show some (_, rest) = _
  rw [hnumber]

/-- A code point is written with one letter, as itself, or as one or two units. -/
theorem codePointForm_cases (p : CodePoint) :
    (∃ c e : Char, p = .char c ∧ codePointForm p = [.char '\\', .char e] ∧ e ≠ 'u' ∧
      escaped? (.char e) = some p) ∨
    (∃ c : Char, p = .char c ∧ codePointForm p = [p] ∧ c ≠ '"' ∧ c ≠ '\\' ∧ 0x20 ≤ c.toNat ∧
      c.toNat ≤ 0x7E) ∨
    (p.toNat < 0x10000 ∧ codePointForm p = unitEscape p.toNat) ∨
    (0x10000 ≤ p.toNat ∧ codePointForm p =
      unitEscape (0xD800 + (p.toNat - 0x10000) / 0x400) ++
        unitEscape (0xDC00 + (p.toNat - 0x10000) % 0x400)) := by
  have hof : ∀ c : Char, p.toNat = c.toNat → p = .char c := fun c hc => CodePoint.toNat_inj hc
  -- in the order in which the forms are tried
  unfold codePointForm
  by_cases hquote : p = .char '"'
  · exact .inl ⟨'"', '"', hquote, if_pos hquote, by decide, by rw [hquote]; rfl⟩
  rw [if_neg hquote]
  by_cases hescape : p = .char '\\'
  · exact .inl ⟨'\\', '\\', hescape, if_pos hescape, by decide, by rw [hescape]; rfl⟩
  rw [if_neg hescape]
  by_cases hline : p = .char '\n'
  · exact .inl ⟨'\n', 'n', hline, if_pos hline, by decide, by rw [hline]; rfl⟩
  rw [if_neg hline]
  by_cases hreturn : p = .char '\r'
  · exact .inl ⟨'\r', 'r', hreturn, if_pos hreturn, by decide, by rw [hreturn]; rfl⟩
  rw [if_neg hreturn]
  by_cases htab : p = .char '\t'
  · exact .inl ⟨'\t', 't', htab, if_pos htab, by decide, by rw [htab]; rfl⟩
  rw [if_neg htab]
  by_cases hback : p.toNat = 0x8
  · exact .inl ⟨'\x08', 'b', hof _ hback, if_pos hback, by decide, by rw [hof '\x08' hback]; rfl⟩
  rw [if_neg hback]
  by_cases hpage : p.toNat = 0xC
  · exact .inl ⟨'\x0c', 'f', hof _ hpage, if_pos hpage, by decide, by rw [hof '\x0c' hpage]; rfl⟩
  rw [if_neg hpage]
  by_cases hplain : 0x20 ≤ p.toNat ∧ p.toNat ≤ 0x7E
  · cases p with
    | char c =>
      exact .inr (.inl ⟨c, rfl, if_pos hplain, fun h => hquote (congrArg _ h),
        fun h => hescape (congrArg _ h), hplain⟩)
    | lone half => exact absurd (show 0xD800 + half.val ≤ 0x7E from hplain.2) (by omega)
  rw [if_neg hplain]
  by_cases hunit : p.toNat < 0x10000
  · exact .inr (.inr (.inl ⟨hunit, if_pos hunit⟩))
  · exact .inr (.inr (.inr ⟨Nat.not_lt.mp hunit, if_neg hunit⟩))

/-! ## What a text becomes -/

/-- A code point that is written out comes back as itself, behind the half that waits; a half waits
itself or joins the one that does. -/
def joinPoint (waiting : Option Nat) : CodePoint → Text × Option Nat
  | .char c => ((waiting.bind CodePoint.ofNat?).toList ++ [.char c], none)
  | .lone half => joinUnit waiting (0xD800 + half.val)

/-- A text whose halves of surrogate pairs are joined where they meet. -/
def joined (waiting : Option Nat) : Text → Text
  | [] => (waiting.bind CodePoint.ofNat?).toList
  | p :: t => (joinPoint waiting p).1 ++ joined (joinPoint waiting p).2 t

theorem joinUnit_high {n : Nat} (h : 0xD800 ≤ n ∧ n < 0xDC00) (waiting : Option Nat) :
    joinUnit waiting n = ((waiting.bind CodePoint.ofNat?).toList, some n) := by
  have halone : joinUnit.alone n = ([], some n) := if_pos h
  cases waiting with
  | none => exact halone
  | some high =>
    rw [joinUnit, if_neg (by omega), halone]
    exact congrArg (·, some n) (List.append_nil _)

theorem joinUnit_char (c : Char) (waiting : Option Nat) :
    joinUnit waiting c.toNat = ((waiting.bind CodePoint.ofNat?).toList ++ [.char c], none) := by
  have hbounds := Utf8.toNat_bounds c
  have halone : joinUnit.alone c.toNat = ([.char c], none) := by
    have hpoint : CodePoint.ofNat? c.toNat = some (.char c) := CodePoint.ofNat?_toNat (.char c)
    rw [joinUnit.alone, if_neg (by omega), hpoint]
    rfl
  cases waiting with
  | none => exact halone
  | some high =>
    rw [joinUnit, if_neg (by omega), halone]
    rfl

theorem joinPoint_eq_joinUnit (p : CodePoint) (waiting : Option Nat) :
    joinPoint waiting p = joinUnit waiting p.toNat := by
  cases p with
  | char c => exact (joinUnit_char c waiting).symm
  | lone half => rfl

/-- The two halves of a character meet. -/
theorem joinUnit_low (c : Char) (h : 0x10000 ≤ c.toNat) :
    joinUnit (some (0xD800 + (c.toNat - 0x10000) / 0x400)) (0xDC00 + (c.toNat - 0x10000) % 0x400) =
      ([.char c], none) := by
  have hpoint : CodePoint.ofNat? c.toNat = some (.char c) := CodePoint.ofNat?_toNat (.char c)
  have hnumber : 0x10000 + (0xD800 + (c.toNat - 0x10000) / 0x400 - 0xD800) * 0x400 +
      (0xDC00 + (c.toNat - 0x10000) % 0x400 - 0xDC00) = c.toNat := by
    omega
  rw [joinUnit, if_pos (by omega), hnumber, hpoint]
  rfl

theorem joined_of_encodable {t : Text} (h : t.Encodable) : joined none t = t := by
  obtain ⟨cs, rfl⟩ := Text.exists_ofChars_of_encodable h
  clear h
  induction cs with
  | nil => rfl
  | cons c cs ih => exact congrArg (CodePoint.char c :: ·) ih

/-- A low half stays alone or makes a character of two halves. -/
theorem exists_joinUnit_low {n : Nat} (h : 0xDC00 ≤ n ∧ n < 0xE000) {waiting : Option Nat}
    (hwaiting : ∀ high ∈ waiting, 0xD800 ≤ high ∧ high < 0xDC00) :
    ∃ p, joinUnit waiting n = ([p], none) ∧ 0xD800 ≤ p.toNat := by
  cases waiting with
  | none =>
    have hpoint : CodePoint.ofNat? n = some (.lone (Fin.ofNat 2048 (n - 0xD800))) :=
      if_pos ⟨by omega, h.2⟩
    refine ⟨.lone (Fin.ofNat 2048 (n - 0xD800)), ?_, Nat.le_add_right _ _⟩
    rw [joinUnit, joinUnit.alone, if_neg (by omega), hpoint]
    rfl
  | some high =>
    obtain ⟨hfrom, hbelow⟩ := hwaiting high rfl
    have hvalid : Nat.isValidChar (0x10000 + (high - 0xD800) * 0x400 + (n - 0xDC00)) :=
      .inr ⟨by omega, by omega⟩
    obtain ⟨c, hc⟩ : ∃ c : Char, 0x10000 + (high - 0xD800) * 0x400 + (n - 0xDC00) = c.toNat :=
      ⟨Char.ofNatAux _ hvalid, rfl⟩
    refine ⟨.char c, ?_, show 0xD800 ≤ c.toNat by omega⟩
    have hpoint : CodePoint.ofNat? c.toNat = some (.char c) := CodePoint.ofNat?_toNat (.char c)
    rw [joinUnit, if_pos h, hc, hpoint]
    rfl

/-- A half that waits is told at last. -/
theorem waiting_eq_none {waiting : Option Nat}
    (hwaiting : ∀ high ∈ waiting, 0xD800 ≤ high ∧ high < 0xDC00)
    (h : ∀ p ∈ (waiting.bind CodePoint.ofNat?).toList, p.toNat < 0xD800) : waiting = none := by
  cases waiting with
  | none => rfl
  | some high =>
    obtain ⟨hfrom, hbelow⟩ := hwaiting high rfl
    have hpoint : CodePoint.ofNat? high = some (.lone (Fin.ofNat 2048 (high - 0xD800))) :=
      if_pos ⟨hfrom, by omega⟩
    rw [Option.bind_some, hpoint] at h
    exact absurd (h _ List.mem_cons_self) (Nat.not_lt.mpr (Nat.le_add_right _ _))

/-- What comes of halves is no low point, so a text of low points was written as it is. -/
theorem eq_of_joined_low {t : Text} {waiting : Option Nat}
    (hwaiting : ∀ high ∈ waiting, 0xD800 ≤ high ∧ high < 0xDC00)
    (h : ∀ p ∈ joined waiting t, p.toNat < 0xD800) : waiting = none ∧ joined waiting t = t := by
  induction t generalizing waiting with
  | nil =>
    have hnone : waiting = none := waiting_eq_none hwaiting h
    rw [hnone]
    exact ⟨rfl, rfl⟩
  | cons p t ih =>
    rw [joined, List.forall_mem_append] at h
    cases p with
    | char c =>
      have hnone : waiting = none := waiting_eq_none hwaiting (List.forall_mem_append.mp h.1).1
      obtain ⟨-, hrest⟩ := ih (by rintro _ ⟨⟩) h.2
      rw [hnone]
      exact ⟨rfl, congrArg (CodePoint.char c :: ·) hrest⟩
    | lone half =>
      exfalso
      rw [joinPoint] at h
      by_cases hhigh : half.val < 0x400
      · -- a high half waits, and nothing that waits is left
        rw [joinUnit_high (by omega)] at h
        have hnone := (ih (by rintro high ⟨⟩; omega) h.2).1
        exact nomatch hnone
      · obtain ⟨p, hjoin, hp⟩ := exists_joinUnit_low (n := 0xD800 + half.val) (by omega) hwaiting
        rw [hjoin] at h
        exact absurd (h.1 p List.mem_cons_self) (Nat.not_lt.mpr hp)

/-! ## Pairs of halves -/

/-- The character of a high half and a low one, by their offsets from U+D800. -/
def pairedChar (high low : Fin 2048) : Char :=
  Char.ofNat (0x10000 + high.val * 0x400 + (low.val - 0x400))

/-- A text where each high half that stands directly before a low one makes a character with it. -/
def paired : Text → Text
  | .lone high :: .lone low :: rest =>
    if high.val < 0x400 ∧ 0x400 ≤ low.val then .char (pairedChar high low) :: paired rest
    else .lone high :: paired (.lone low :: rest)
  | p :: rest => p :: paired rest
  | [] => []

/-- No high half stands directly before a low one. -/
def HalvesApart (t : Text) : Prop :=
  ∀ high low : Fin 2048, [.lone high, .lone low] <:+: t → high.val < 0x400 → low.val < 0x400

theorem halvesApart_nil : HalvesApart [] := fun _ _ h => nomatch List.infix_nil.mp h

theorem halvesApart_cons_iff {p : CodePoint} {t : Text} :
    HalvesApart (p :: t) ↔
      (∀ high low : Fin 2048, p = .lone high → t.head? = some (.lone low) → high.val < 0x400 →
        low.val < 0x400) ∧ HalvesApart t := by
  have hprefix : ∀ high low : Fin 2048, [.lone high, .lone low] <+: p :: t ↔
      p = .lone high ∧ t.head? = some (.lone low) := by
    intro high low
    rw [List.cons_prefix_cons, List.singleton_prefix_iff_head?_eq_some, eq_comm]
  simp only [HalvesApart, List.infix_cons_iff, hprefix, or_imp, forall_and, and_imp]

/-- A text stays as it is if no halves meet in it, and only then. -/
theorem paired_eq_self_iff {t : Text} : paired t = t ↔ HalvesApart t := by
  fun_induction paired t with
  | case1 high low rest hpair ih =>
    rw [halvesApart_cons_iff]
    refine iff_of_false (fun h => nomatch (List.cons.inj h).1) fun h => ?_
    exact absurd (h.1 high low rfl rfl hpair.1) (Nat.not_lt.mpr hpair.2)
  | case2 high low rest hpair ih =>
    rw [halvesApart_cons_iff, List.cons_inj_right, ih]
    refine (and_iff_right ?_).symm
    rintro _ _ ⟨⟩ ⟨⟩ hhigh
    exact Nat.not_le.mp fun hlow => hpair ⟨hhigh, hlow⟩
  | case3 p rest hnext ih =>
    rw [halvesApart_cons_iff, List.cons_inj_right, ih]
    refine (and_iff_right ?_).symm
    rintro high low rfl hhead
    obtain ⟨rest', rfl⟩ := List.head?_eq_some_iff.mp hhead
    exact absurd rfl (hnext high low rest' rfl)
  | case4 => exact iff_of_true rfl halvesApart_nil

section

variable {high low : Fin 2048} {waiting : Option Nat} {rest : Text}

theorem ofNat?_half (half : Fin 2048) : CodePoint.ofNat? (0xD800 + half.val) = some (.lone half) :=
  CodePoint.ofNat?_toNat (.lone half)

/-- A high half waits. -/
theorem joined_high (h : high.val < 0x400) :
    joined waiting (.lone high :: rest) =
      (waiting.bind CodePoint.ofNat?).toList ++ joined (some (0xD800 + high.val)) rest := by
  rw [joined, joinPoint, joinUnit_high (by omega)]

/-- A low half for which none waits stays alone. -/
theorem joined_low_alone (h : 0x400 ≤ low.val) :
    joined none (.lone low :: rest) = .lone low :: joined none rest := by
  have halone : joinUnit none (0xD800 + low.val) = ([.lone low], none) := by
    rw [joinUnit, joinUnit.alone, if_neg (by omega), ofNat?_half]
    rfl
  rw [joined, joinPoint, halone]
  rfl

/-- Two halves that meet make a character. -/
theorem joined_pair (hhigh : high.val < 0x400) (hlow : 0x400 ≤ low.val) :
    joined none (.lone high :: .lone low :: rest) =
      .char (pairedChar high low) :: joined none rest := by
  have hnumber : 0x10000 + (0xD800 + high.val - 0xD800) * 0x400 + (0xD800 + low.val - 0xDC00) =
      0x10000 + high.val * 0x400 + (low.val - 0x400) := by
    omega
  have hpoint : CodePoint.ofNat? (0x10000 + high.val * 0x400 + (low.val - 0x400)) =
      some (.char (pairedChar high low)) := by
    rw [CodePoint.ofNat?, if_neg (by omega), if_pos (by omega)]
    rfl
  have hjoin : joinUnit (some (0xD800 + high.val)) (0xD800 + low.val) =
      ([.char (pairedChar high low)], none) := by
    rw [joinUnit, if_pos (by omega), hnumber, hpoint]
    rfl
  rw [joined_high hhigh, joined, joinPoint, hjoin]
  rfl

/-- A half that no low one follows stays alone. -/
theorem joined_high_alone
    (hrest : ∀ low : Fin 2048, rest.head? = some (.lone low) → low.val < 0x400) :
    joined (some (0xD800 + high.val)) rest = .lone high :: joined none rest := by
  have hwaiting : ((some (0xD800 + high.val)).bind CodePoint.ofNat?).toList = [.lone high] := by
    rw [Option.bind_some, ofNat?_half]
    rfl
  cases rest with
  | nil => exact hwaiting
  | cons p rest =>
    cases p with
    | char c =>
      rw [joined, joinPoint, hwaiting]
      rfl
    | lone next =>
      have hnext := hrest next rfl
      rw [joined_high hnext, joined_high hnext, hwaiting]
      rfl

end

/-- Halves are joined where a high one meets a low one, and nowhere else. -/
theorem joined_eq_paired (t : Text) : joined none t = paired t := by
  fun_induction paired t with
  | case1 high low rest hpair ih => rw [joined_pair hpair.1 hpair.2, ih]
  | case2 high low rest hpair ih =>
    by_cases hhigh : high.val < 0x400
    · have hrest : ∀ next : Fin 2048, (CodePoint.lone low :: rest).head? = some (.lone next) →
          next.val < 0x400 := by
        rintro _ ⟨⟩
        exact Nat.not_le.mp fun hlow => hpair ⟨hhigh, hlow⟩
      rw [joined_high hhigh, joined_high_alone hrest, ih]
      rfl
    · rw [joined_low_alone (Nat.not_lt.mp hhigh), ih]
  | case3 p rest hnext ih =>
    cases p with
    | char c => rw [← ih]; rfl
    | lone half =>
      by_cases hhigh : half.val < 0x400
      · have hrest : ∀ next : Fin 2048, rest.head? = some (.lone next) → next.val < 0x400 := by
          intro next hhead
          obtain ⟨rest', rfl⟩ := List.head?_eq_some_iff.mp hhead
          exact absurd rfl (hnext half next rest' rfl)
        rw [joined_high hhigh, joined_high_alone hrest, ih]
        rfl
      · rw [joined_low_alone (Nat.not_lt.mp hhigh), ih]
  | case4 => rfl

/-! ## Reading one code point -/

section

variable {waiting : Option Nat} {rest content after : Text} {fuel : Nat}

theorem readQuoted_quote :
    readQuoted waiting (fuel + 1) (.char '"' :: rest) =
      some ((waiting.bind CodePoint.ofNat?).toList, rest) := rfl

theorem readQuoted_plain {p : CodePoint} (hquote : p ≠ .char '"') (hescape : p ≠ .char '\\')
    (hcontrol : ¬ p.toNat < 0x20) (hrest : readQuoted none fuel rest = some (content, after)) :
    readQuoted waiting (fuel + 1) (p :: rest) =
      some ((waiting.bind CodePoint.ofNat?).toList ++ p :: content, after) := by
  show (if p = .char '"' then _ else if p = .char '\\' then _ else if p.toNat < 0x20 then _ else
    readQuoted none fuel rest >>= _) = _
  rw [if_neg hquote, if_neg hescape, if_neg hcontrol, hrest]
  rfl

theorem readQuoted_escaped {e : Char} {c : CodePoint} (hunit : e ≠ 'u')
    (hc : escaped? (.char e) = some c) (hrest : readQuoted none fuel rest = some (content, after)) :
    readQuoted waiting (fuel + 1) (.char '\\' :: .char e :: rest) =
      some ((waiting.bind CodePoint.ofNat?).toList ++ c :: content, after) := by
  unfold readQuoted
  dsimp only
  rw [if_neg (by decide), if_pos rfl]
  split
  · rename_i heq
    exact absurd (CodePoint.char.inj (List.cons.inj heq).1) hunit
  · rename_i heq
    cases heq
    rw [hc]
    show (readQuoted none fuel rest >>= _) = _
    rw [hrest]
    rfl
  · rename_i heq
    exact nomatch heq

theorem readQuoted_hex {n : Nat} {digits : Text} (hdigits : hex4? digits = some (n, rest))
    (hrest : readQuoted (joinUnit waiting n).2 fuel rest = some (content, after)) :
    readQuoted waiting (fuel + 1) (.char '\\' :: .char 'u' :: digits) =
      some ((joinUnit waiting n).1 ++ content, after) := by
  show (hex4? digits >>= _) = _
  rw [hdigits]
  show (readQuoted (joinUnit waiting n).2 fuel rest >>= _) = _
  rw [hrest]
  rfl

theorem readQuoted_unit {n : Nat} (h : n < 0x10000)
    (hrest : readQuoted (joinUnit waiting n).2 fuel rest = some (content, after)) :
    readQuoted waiting (fuel + 1) (unitEscape n ++ rest) =
      some ((joinUnit waiting n).1 ++ content, after) := by
  obtain ⟨digits, hform, hdigits⟩ := hex4?_unit h rest
  rw [hform]
  exact readQuoted_hex hdigits hrest

/-- The written form of a code point is read as what the point becomes, whatever is read behind it. -/
theorem readQuoted_form (p : CodePoint) {more : Nat}
    (hrest : ∀ fuel, more < fuel →
      readQuoted (joinPoint waiting p).2 fuel rest = some (content, after)) :
    ∀ fuel, (codePointForm p).length + more < fuel →
      readQuoted waiting fuel (codePointForm p ++ rest) =
        some ((joinPoint waiting p).1 ++ content, after) := by
  intro fuel hfuel
  obtain ⟨c, e, rfl, hform, hunit, hescaped⟩ | ⟨c, rfl, hform, hquote, hescape, hcontrol, -⟩ |
    ⟨hsmall, hform⟩ | ⟨hlarge, hform⟩ := codePointForm_cases p
  · rw [hform] at hfuel ⊢
    obtain ⟨fuel, rfl⟩ := Nat.exists_eq_succ_of_ne_zero (Nat.ne_zero_of_lt hfuel)
    have hmore := hrest fuel (by simp at hfuel; omega)
    rw [joinPoint, List.append_assoc]
    exact readQuoted_escaped hunit hescaped hmore
  · rw [hform] at hfuel ⊢
    obtain ⟨fuel, rfl⟩ := Nat.exists_eq_succ_of_ne_zero (Nat.ne_zero_of_lt hfuel)
    have hmore := hrest fuel (by simp at hfuel; omega)
    rw [joinPoint, List.append_assoc]
    exact readQuoted_plain (by simpa using hquote) (by simpa using hescape) (Nat.not_lt.mpr hcontrol)
      hmore
  · have hlength := length_unitEscape hsmall
    rw [hform] at hfuel ⊢
    obtain ⟨fuel, rfl⟩ := Nat.exists_eq_succ_of_ne_zero (Nat.ne_zero_of_lt hfuel)
    rw [joinPoint_eq_joinUnit] at hrest ⊢
    exact readQuoted_unit hsmall (hrest fuel (by omega))
  · -- two units: the first half waits, and the second joins it
    obtain ⟨c, rfl⟩ : ∃ c, p = .char c := by
      cases p with
      | char c => exact ⟨c, rfl⟩
      | lone half => exact absurd (show 0x10000 ≤ 0xD800 + half.val from hlarge) (by omega)
    have hbounds := Utf8.toNat_bounds c
    change 0x10000 ≤ c.toNat at hlarge
    change codePointForm (.char c) =
      unitEscape (0xD800 + (c.toNat - 0x10000) / 0x400) ++
        unitEscape (0xDC00 + (c.toNat - 0x10000) % 0x400) at hform
    have hjoin := joinUnit_low c hlarge
    generalize hhigh : 0xD800 + (c.toNat - 0x10000) / 0x400 = high at hform hjoin
    generalize hlow : 0xDC00 + (c.toNat - 0x10000) % 0x400 = low at hform hjoin
    have hfirst : high < 0x10000 := by omega
    have hsecond : low < 0x10000 := by omega
    rw [hform, List.length_append, length_unitEscape hfirst, length_unitEscape hsecond] at hfuel
    obtain ⟨fuel, rfl⟩ := Nat.exists_eq_add_of_le (show 2 ≤ fuel by omega)
    rw [Nat.add_comm 2 fuel, hform, List.append_assoc]
    have hbehind : readQuoted (some high) (fuel + 1) (unitEscape low ++ rest) =
        some ([.char c] ++ content, after) := by
      rw [readQuoted_unit hsecond (by rw [hjoin]; exact hrest fuel (by omega)), hjoin]
    rw [readQuoted_unit hfirst (by rw [joinUnit_high (by omega)]; exact hbehind),
      joinUnit_high (by omega), joinPoint, List.append_assoc]

/-- A written text is read up to its closing quote. -/
theorem readQuoted_written (t : Text) (waiting : Option Nat) (rest : Text) :
    ∀ fuel, (t.flatMap codePointForm).length < fuel →
      readQuoted waiting fuel (t.flatMap codePointForm ++ .char '"' :: rest) =
        some (joined waiting t, rest) := by
  induction t generalizing waiting with
  | nil =>
    intro fuel hfuel
    obtain ⟨fuel, rfl⟩ := Nat.exists_eq_succ_of_ne_zero (Nat.ne_zero_of_lt hfuel)
    exact readQuoted_quote
  | cons p t ih =>
    intro fuel hfuel
    rw [List.flatMap_cons, List.append_assoc]
    rw [List.flatMap_cons, List.length_append] at hfuel
    exact readQuoted_form p (ih _) fuel hfuel

end

/-- Does a reader take a text for what is written?  No half of a pair may be left over, unless the
reader takes halves. -/
def Reading.takes (r : Reading) (t : Text) : Bool := r.loneSurrogates || Text.Encodable (joined none t)

theorem readText_written (r : Reading) (t rest : Text) :
    readText r (t.flatMap codePointForm ++ .char '"' :: rest) =
      if r.takes t then some (joined none t, rest) else none := by
  have hread := readQuoted_written t none rest
    ((t.flatMap codePointForm ++ .char '"' :: rest).length + 1)
    (by rw [List.length_append]; omega)
  show (readQuoted none _ _ >>= _) = _
  rw [hread]
  rfl

end Json

end ImageDiscovery
