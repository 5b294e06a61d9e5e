import ImageDiscovery.Text.Utf8
import Mathlib.Algebra.Group.Nat.Defs

/-!
# UTF-8 — bytes that are read as they were written

A character is written as a sequence of one to four bytes, and that sequence is read as the character
again whatever comes behind it.  So a text without lone surrogates is the reading of its bytes, for the
reader that gives up at a fault and for those that put a mark in its place.
-/

namespace ImageDiscovery

namespace Utf8

variable {a b c d : UInt8} {rest : Bytes}

/-! ## Bytes by number -/

theorem lt_of_toNat_lt (h : a.toNat < b.toNat) : a < b := UInt8.lt_iff_toNat_lt.mpr h

theorem not_lt_of_toNat_le (h : b.toNat ≤ a.toNat) : ¬ a < b :=
  fun hlt => Nat.not_lt_of_le h (UInt8.lt_iff_toNat_lt.mp hlt)

theorem toNat_ofNat {n : Nat} (h : n < 0x100) : (UInt8.ofNat n).toNat = n :=
  UInt8.toNat_ofNat_of_lt' h

theorem toNat_continuation (n shift : Nat) :
    (continuation n shift).toNat = 0x80 + n / 2 ^ shift % 0x40 := by
  rw [continuation, Nat.shiftRight_eq_div_pow, toNat_ofNat (by omega)]

theorem isContinuation_continuation (n shift : Nat) :
    isContinuation (continuation n shift) = true := by
  have hbyte := toNat_continuation n shift
  simp only [isContinuation, Bool.and_eq_true, decide_eq_true_eq, UInt8.le_iff_toNat_le,
    UInt8.lt_iff_toNat_lt, UInt8.reduceToNat]
  omega

theorem low_continuation (n shift : Nat) : low (continuation n shift) = n / 2 ^ shift % 0x40 := by
  rw [low, toNat_continuation]
  omega

/-- A continuation may stand second unless the first byte asks for more. -/
theorem second_of_isContinuation (hb : isContinuation b = true)
    (hE0 : a.toNat = 0xE0 → 0xA0 ≤ b.toNat) (hED : a.toNat = 0xED → b.toNat < 0xA0)
    (hF0 : a.toNat = 0xF0 → 0x90 ≤ b.toNat) (hF4 : a.toNat = 0xF4 → b.toNat < 0x90) :
    second a b = true := by
  simp only [second, hb, bne, Bool.and_eq_true, Bool.or_eq_true, Bool.not_eq_true',
    beq_eq_false_iff_ne, decide_eq_true_eq, UInt8.le_iff_toNat_le, UInt8.lt_iff_toNat_lt, ne_eq,
    ← UInt8.toNat_inj, true_and, UInt8.reduceToNat]
  omega

/-! ## Sequences by length -/

theorem read?_one (ha : a.toNat < 0x80) : read? (a :: rest) = some (Char.ofNat a.toNat, rest) := by
  have hlow : a < 0x80 := lt_of_toNat_lt ha
  show (if a < 0x80 then _ else _) = _
  rw [if_pos hlow]

theorem read?_two (ha : 0xC2 ≤ a.toNat ∧ a.toNat < 0xE0) (hb : second a b = true) :
    read? (a :: b :: rest) = some (Char.ofNat ((a.toNat - 0xC0) * 0x40 + low b), rest) := by
  have h80 : ¬ a < 0x80 := not_lt_of_toNat_le (Nat.le_trans (by decide) ha.1)
  have hC2 : ¬ a < 0xC2 := not_lt_of_toNat_le ha.1
  have hE0 : a < 0xE0 := lt_of_toNat_lt ha.2
  show (if a < 0x80 then _ else if a < 0xC2 then _ else if a < 0xE0 then
    if second a b then _ else _ else _) = _
  rw [if_neg h80, if_neg hC2, if_pos hE0, if_pos hb]

theorem read?_three (ha : 0xE0 ≤ a.toNat ∧ a.toNat < 0xF0) (hb : second a b = true)
    (hc : isContinuation c = true) :
    read? (a :: b :: c :: rest) =
      some (Char.ofNat (((a.toNat - 0xE0) * 0x40 + low b) * 0x40 + low c), rest) := by
  have h80 : ¬ a < 0x80 := not_lt_of_toNat_le (Nat.le_trans (by decide) ha.1)
  have hC2 : ¬ a < 0xC2 := not_lt_of_toNat_le (Nat.le_trans (by decide) ha.1)
  have hE0 : ¬ a < 0xE0 := not_lt_of_toNat_le ha.1
  have hF0 : a < 0xF0 := lt_of_toNat_lt ha.2
  show (if a < 0x80 then _ else if a < 0xC2 then _ else if a < 0xE0 then _ else if a < 0xF0 then
    if second a b && isContinuation c then _ else _ else _) = _
  rw [if_neg h80, if_neg hC2, if_neg hE0, if_pos hF0, if_pos (by rw [hb, hc]; rfl)]

theorem read?_four (ha : 0xF0 ≤ a.toNat ∧ a.toNat < 0xF5) (hb : second a b = true)
    (hc : isContinuation c = true) (hd : isContinuation d = true) :
    read? (a :: b :: c :: d :: rest) =
      some (Char.ofNat ((((a.toNat - 0xF0) * 0x40 + low b) * 0x40 + low c) * 0x40 + low d), rest) := by
  have h80 : ¬ a < 0x80 := not_lt_of_toNat_le (Nat.le_trans (by decide) ha.1)
  have hC2 : ¬ a < 0xC2 := not_lt_of_toNat_le (Nat.le_trans (by decide) ha.1)
  have hE0 : ¬ a < 0xE0 := not_lt_of_toNat_le (Nat.le_trans (by decide) ha.1)
  have hF0 : ¬ a < 0xF0 := not_lt_of_toNat_le ha.1
  have hF5 : a < 0xF5 := lt_of_toNat_lt ha.2
  show (if a < 0x80 then _ else if a < 0xC2 then _ else if a < 0xE0 then _ else if a < 0xF0 then _
    else if a < 0xF5 then
      if second a b && isContinuation c && isContinuation d then _ else _ else _) = _
  rw [if_neg h80, if_neg hC2, if_neg hE0, if_neg hF0, if_pos hF5, if_pos (by rw [hb, hc, hd]; rfl)]

/-! ## Characters -/

/-- No character has the number of half of a surrogate pair. -/
theorem toNat_bounds (c : Char) : c.toNat < 0xD800 ∨ 0xE000 ≤ c.toNat ∧ c.toNat < 0x110000 := by
  have h := c.valid
  simp only [UInt32.isValidChar, Nat.isValidChar] at h
  show c.val.toNat < 0xD800 ∨ 0xE000 ≤ c.val.toNat ∧ c.val.toNat < 0x110000
  omega

/-- Reading undoes writing, whatever follows. -/
theorem read?_encodeNat (c : Char) (rest : Bytes) :
    read? (encodeNat c.toNat ++ rest) = some (c, rest) := by
  have hbounds := toNat_bounds c
  have hchar : Char.ofNat c.toNat = c := Char.ofNat_toNat c
  generalize c.toNat = n at hbounds hchar
  unfold encodeNat
  by_cases hone : n < 0x80
  · have hfirst : (UInt8.ofNat n).toNat = n := toNat_ofNat (by omega)
    rw [if_pos hone, List.singleton_append, read?_one (by rw [hfirst]; exact hone), hfirst, hchar]
  rw [if_neg hone]
  by_cases htwo : n < 0x800
  · have hfirst : (UInt8.ofNat (0xC0 + n >>> 6)).toNat = 0xC0 + n / 2 ^ 6 := by
      rw [Nat.shiftRight_eq_div_pow, toNat_ofNat (by omega)]
    have hsecond : second (UInt8.ofNat (0xC0 + n >>> 6)) (continuation n 0) = true := by
      apply second_of_isContinuation (isContinuation_continuation n 0) <;> omega
    have hnumber : (0xC0 + n / 2 ^ 6 - 0xC0) * 0x40 + n / 2 ^ 0 % 0x40 = n := by omega
    rw [if_pos htwo, List.cons_append, List.singleton_append, read?_two (by omega) hsecond, hfirst,
      low_continuation, hnumber, hchar]
  rw [if_neg htwo]
  by_cases hthree : n < 0x10000
  · have hfirst : (UInt8.ofNat (0xE0 + n >>> 12)).toNat = 0xE0 + n / 2 ^ 12 := by
      rw [Nat.shiftRight_eq_div_pow, toNat_ofNat (by omega)]
    -- surrogates are what E0 and ED ask for
    have hsecond : second (UInt8.ofNat (0xE0 + n >>> 12)) (continuation n 6) = true := by
      have hbyte := toNat_continuation n 6
      apply second_of_isContinuation (isContinuation_continuation n 6) <;> omega
    have hnumber : ((0xE0 + n / 2 ^ 12 - 0xE0) * 0x40 + n / 2 ^ 6 % 0x40) * 0x40 +
        n / 2 ^ 0 % 0x40 = n := by
      omega
    rw [if_pos hthree, List.cons_append, List.cons_append, List.singleton_append,
      read?_three (by omega) hsecond (isContinuation_continuation n 0), hfirst, low_continuation,
      low_continuation, hnumber, hchar]
  · have hfirst : (UInt8.ofNat (0xF0 + n >>> 18)).toNat = 0xF0 + n / 2 ^ 18 := by
      rw [Nat.shiftRight_eq_div_pow, toNat_ofNat (by omega)]
    have hsecond : second (UInt8.ofNat (0xF0 + n >>> 18)) (continuation n 12) = true := by
      have hbyte := toNat_continuation n 12
      apply second_of_isContinuation (isContinuation_continuation n 12) <;> omega
    have hnumber : (((0xF0 + n / 2 ^ 18 - 0xF0) * 0x40 + n / 2 ^ 12 % 0x40) * 0x40 +
        n / 2 ^ 6 % 0x40) * 0x40 + n / 2 ^ 0 % 0x40 = n := by
      omega
    rw [if_neg hthree, List.cons_append, List.cons_append, List.cons_append, List.singleton_append,
      read?_four (by omega) hsecond (isContinuation_continuation n 6)
        (isContinuation_continuation n 0),
      hfirst, low_continuation, low_continuation, low_continuation, hnumber, hchar]

/-! ## Bytes that are read -/

theorem toNat_charOfNat {n : Nat} (h : n < 0xD800 ∨ 0xE000 ≤ n ∧ n < 0x110000) :
    (Char.ofNat n).toNat = n := by
  have hvalid : n.isValidChar := by
    unfold Nat.isValidChar
    omega
  rw [Char.ofNat, dif_pos hvalid]
  rfl

theorem ofNat_eq_of_toNat {n : Nat} (h : n = a.toNat) : UInt8.ofNat n = a := by
  rw [h, UInt8.ofNat_toNat]

theorem continuation_eq_of_toNat {n shift : Nat} (h : 0x80 + n / 2 ^ shift % 0x40 = b.toNat) :
    continuation n shift = b := by
  rw [← UInt8.toNat_inj, toNat_continuation, h]

theorem toNat_of_isContinuation (h : isContinuation b = true) :
    0x80 ≤ b.toNat ∧ b.toNat < 0xC0 ∧ low b = b.toNat - 0x80 := by
  simp only [isContinuation, Bool.and_eq_true, decide_eq_true_eq, UInt8.le_iff_toNat_le,
    UInt8.lt_iff_toNat_lt, UInt8.reduceToNat] at h
  rw [low]
  omega

theorem toNat_of_second (h : second a b = true) :
    isContinuation b = true ∧ (a.toNat = 0xE0 → 0xA0 ≤ b.toNat) ∧
      (a.toNat = 0xED → b.toNat < 0xA0) ∧ (a.toNat = 0xF0 → 0x90 ≤ b.toNat) ∧
      (a.toNat = 0xF4 → b.toNat < 0x90) := by
  simp only [second, bne, Bool.and_eq_true, Bool.or_eq_true, Bool.not_eq_true',
    beq_eq_false_iff_ne, decide_eq_true_eq, UInt8.le_iff_toNat_le, UInt8.lt_iff_toNat_lt, ne_eq,
    ← UInt8.toNat_inj, UInt8.reduceToNat] at h
  refine ⟨h.1.1.1.1, ?_⟩
  omega

theorem encodeNat_two (ha : 0xC2 ≤ a.toNat ∧ a.toNat < 0xE0) (hb : second a b = true) :
    encodeNat (Char.ofNat ((a.toNat - 0xC0) * 0x40 + low b)).toNat = [a, b] := by
  have hsecond := toNat_of_isContinuation (toNat_of_second hb).1
  rw [toNat_charOfNat (by omega), encodeNat, if_neg (by omega), if_pos (by omega),
    Nat.shiftRight_eq_div_pow, ofNat_eq_of_toNat (a := a) (by omega),
    continuation_eq_of_toNat (b := b) (by omega)]

theorem encodeNat_three (ha : 0xE0 ≤ a.toNat ∧ a.toNat < 0xF0) (hb : second a b = true)
    (hc : isContinuation c = true) :
    encodeNat (Char.ofNat (((a.toNat - 0xE0) * 0x40 + low b) * 0x40 + low c)).toNat = [a, b, c] := by
  have hranges := toNat_of_second hb
  have hsecond := toNat_of_isContinuation hranges.1
  have hthird := toNat_of_isContinuation hc
  rw [toNat_charOfNat (by omega), encodeNat, if_neg (by omega), if_neg (by omega), if_pos (by omega),
    Nat.shiftRight_eq_div_pow, ofNat_eq_of_toNat (a := a) (by omega),
    continuation_eq_of_toNat (b := b) (by omega), continuation_eq_of_toNat (b := c) (by omega)]

theorem encodeNat_four (ha : 0xF0 ≤ a.toNat ∧ a.toNat < 0xF5) (hb : second a b = true)
    (hc : isContinuation c = true) (hd : isContinuation d = true) :
    encodeNat (Char.ofNat
      ((((a.toNat - 0xF0) * 0x40 + low b) * 0x40 + low c) * 0x40 + low d)).toNat = [a, b, c, d] := by
  have hranges := toNat_of_second hb
  have hsecond := toNat_of_isContinuation hranges.1
  have hthird := toNat_of_isContinuation hc
  have hfourth := toNat_of_isContinuation hd
  rw [toNat_charOfNat (by omega), encodeNat, if_neg (by omega), if_neg (by omega), if_neg (by omega),
    Nat.shiftRight_eq_div_pow, ofNat_eq_of_toNat (a := a) (by omega),
    continuation_eq_of_toNat (b := b) (by omega), continuation_eq_of_toNat (b := c) (by omega),
    continuation_eq_of_toNat (b := d) (by omega)]

/-- What is read as a character is its sequence: there is no other for it. -/
theorem eq_of_read? {bs : Bytes} {e : Char} (h : read? bs = some (e, rest)) :
    bs = encodeNat e.toNat ++ rest := by
  unfold read? at h
  split at h
  · exact nomatch h
  simp only [UInt8.lt_iff_toNat_lt, UInt8.reduceToNat] at h
  split at h
  · rename_i hone
    cases h
    rw [toNat_charOfNat (by omega), encodeNat, if_pos hone, ofNat_eq_of_toNat rfl]
    rfl
  split at h
  · exact nomatch h
  split at h
  · rename_i hfrom htwo
    split at h
    · split at h
      · rename_i hb
        cases h
        rw [encodeNat_two ⟨by omega, htwo⟩ hb]
        rfl
      · exact nomatch h
    · exact nomatch h
  split at h
  · rename_i hfrom hthree
    split at h
    · split at h
      · rename_i hbc
        cases h
        rw [Bool.and_eq_true] at hbc
        rw [encodeNat_three ⟨by omega, hthree⟩ hbc.1 hbc.2]
        rfl
      · exact nomatch h
    · exact nomatch h
  split at h
  · rename_i hfrom hfour
    split at h
    · split at h
      · rename_i hbcd
        cases h
        rw [Bool.and_eq_true, Bool.and_eq_true] at hbcd
        rw [encodeNat_four ⟨by omega, hfour⟩ hbcd.1.1 hbcd.1.2 hbcd.2]
        rfl
      · exact nomatch h
    · exact nomatch h
  · exact nomatch h

end Utf8

namespace CodePoint

theorem toNat_lt (p : CodePoint) : p.toNat < 0x110000 := by
  cases p with
  | char c =>
    have hbounds := Utf8.toNat_bounds c
    show c.toNat < 0x110000
    omega
  | lone half =>
    show 0xD800 + half.val < 0x110000
    omega

theorem ofNat?_toNat (p : CodePoint) : ofNat? p.toNat = some p := by
  cases p with
  | char c =>
    have hbounds := Utf8.toNat_bounds c
    show (if 0xD800 ≤ c.toNat ∧ c.toNat < 0xE000 then _ else if c.toNat < 0x110000 then _ else _) = _
    rw [if_neg (by omega), if_pos (by omega)]
    exact congrArg (some ∘ CodePoint.char) (Char.ofNat_toNat c)
  | lone half =>
    have hlt := half.isLt
    have hhalf : Fin.ofNat 2048 (0xD800 + half.val - 0xD800) = half := by
      apply Fin.ext
      show (0xD800 + half.val - 0xD800) % 2048 = half.val
      omega
    show (if 0xD800 ≤ 0xD800 + half.val ∧ 0xD800 + half.val < 0xE000 then _ else _) = _
    rw [if_pos (by omega)]
    exact congrArg (some ∘ CodePoint.lone) hhalf

theorem toNat_inj {p q : CodePoint} (h : p.toNat = q.toNat) : p = q := by
  have hsame : some p = some q := by rw [← ofNat?_toNat p, h, ofNat?_toNat q]
  exact Option.some.inj hsame

theorem toNat_of_ofNat? {n : Nat} {p : CodePoint} (h : ofNat? n = some p) : p.toNat = n := by
  unfold ofNat? at h
  split at h
  · rename_i hlone
    rw [← Option.some.inj h]
    show 0xD800 + (n - 0xD800) % 2048 = n
    omega
  · split at h
    · rename_i hlone hlt
      rw [← Option.some.inj h]
      exact Utf8.toNat_charOfNat (by omega)
    · exact nomatch h

theorem exists_toNat_eq {n : Nat} (h : n < 0x110000) : ∃ p : CodePoint, p.toNat = n := by
  cases hpoint : ofNat? n with
  | some p => exact ⟨p, toNat_of_ofNat? hpoint⟩
  | none =>
    rw [ofNat?, if_pos h] at hpoint
    split at hpoint
    · exact nomatch hpoint
    · exact nomatch hpoint

end CodePoint

namespace Text

theorem ofChars_append (cs ds : List Char) : ofChars (cs ++ ds) = ofChars cs ++ ofChars ds :=
  List.map_append

theorem utf8_cons (c : Char) (cs : List Char) :
    utf8 (ofChars (c :: cs)) = Utf8.encodeNat c.toNat ++ utf8 (ofChars cs) := rfl

/-- The reader that gives up at a fault finds none in what was written. -/
theorem decode?_utf8 (cs : List Char) : Utf8.decode? (ofChars cs).utf8 = some cs := by
  induction cs with
  | nil =>
    unfold Utf8.decode?
    rfl
  | cons c cs ih =>
    rw [utf8_cons]
    unfold Utf8.decode?
    split
    · rename_i hread
      rw [Utf8.read?_encodeNat] at hread
      cases hread
      rw [ih]
      rfl
    · rename_i hread
      rw [Utf8.read?_encodeNat] at hread
      cases hread

/-- What is read without a fault was written so. -/
theorem utf8_of_decode? {bs : Bytes} {cs : List Char} (h : Utf8.decode? bs = some cs) :
    (ofChars cs).utf8 = bs := by
  induction cs generalizing bs with
  | nil =>
    unfold Utf8.decode? at h
    split at h
    · cases (Option.map_eq_some_iff.mp h).choose_spec.2
    · split at h
      · rename_i hempty
        exact (List.isEmpty_iff.mp hempty).symm
      · cases h
  | cons c cs ih =>
    unfold Utf8.decode? at h
    split at h
    · rename_i first rest hread
      obtain ⟨others, hrest, heq⟩ := Option.map_eq_some_iff.mp h
      cases heq
      rw [Utf8.eq_of_read? hread, utf8_cons, ih hrest]
    · split at h
      · cases h
      · cases h

theorem decode_utf8 (more : Bytes → Nat) (cs : List Char) :
    Utf8.decode more (ofChars cs).utf8 = cs := by
  induction cs with
  | nil =>
    unfold Utf8.decode
    rfl
  | cons c cs ih =>
    rw [utf8_cons]
    unfold Utf8.decode
    split
    · rename_i hread
      rw [Utf8.read?_encodeNat] at hread
      cases hread
      rw [ih]
    · rename_i hread
      rw [Utf8.read?_encodeNat] at hread
      cases hread

theorem exists_ofChars_of_encodable {t : Text} (h : t.Encodable) : ∃ cs, t = ofChars cs := by
  induction t with
  | nil => exact ⟨[], rfl⟩
  | cons p t ih =>
    obtain ⟨cs, rfl⟩ := ih fun q hq => h q (.tail _ hq)
    cases p with
    | char c => exact ⟨c :: cs, rfl⟩
    | lone half => exact absurd (h _ List.mem_cons_self) (by simp [CodePoint.isChar])

theorem encodable_ofChars (cs : List Char) : (ofChars cs).Encodable := by
  intro p hp
  obtain ⟨c, -, rfl⟩ := List.mem_map.mp hp
  rfl

theorem eq_ofChars_of_toChars? {t : Text} {cs : List Char} (h : t.toChars? = some cs) :
    t = ofChars cs := by
  induction t generalizing cs with
  | nil =>
    cases h
    rfl
  | cons p t ih =>
    cases p with
    | char c =>
      rcases Option.map_eq_some_iff.mp h with ⟨cs, hcs, rfl⟩
      rw [ih hcs]
      rfl
    | lone half => exact nomatch h

theorem toChars?_ofChars (cs : List Char) : (ofChars cs).toChars? = some cs := by
  induction cs with
  | nil => rfl
  | cons c cs ih =>
    show ((ofChars cs).toChars?).map (c :: ·) = _
    rw [ih]
    rfl

end Text

end ImageDiscovery
