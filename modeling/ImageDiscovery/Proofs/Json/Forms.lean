import ImageDiscovery.Proofs.Json.RoundTrip
import ImageDiscovery.Proofs.Text.Split
import Mathlib.Data.List.Forall2

/-!
# Forms — a document on one line, and over several

Both ways to write a document out put no more than white space between its parts, so what is written
either way is read again.  Either way nothing is written but printable points of ASCII and white space.
-/

namespace ImageDiscovery

namespace Json

/-! ## The points of forms -/

/-- A point that may stand in a form: white space, or a printable one of ASCII. -/
def isFormPoint (p : CodePoint) : Bool := isSpace p || decide (0x20 ≤ p.toNat ∧ p.toNat ≤ 0x7E)

/-- A text of such points only. -/
def IsFormText (t : Text) : Prop := ∀ p ∈ t, isFormPoint p = true

instance (t : Text) : Decidable (IsFormText t) :=
  inferInstanceAs (Decidable (∀ p ∈ t, isFormPoint p = true))

theorem isFormPoint_of_isDigit {c : Char} (h : c.isDigit = true) :
    isFormPoint (.char c) = true := by
  rw [← CodePoint.isDigit_char] at h
  simp only [CodePoint.isDigit, Bool.and_eq_true, decide_eq_true_eq] at h
  rw [isFormPoint, Bool.or_eq_true, decide_eq_true_eq]
  exact .inr (by omega)

theorem isFormText_append {s t : Text} (hs : IsFormText s) (ht : IsFormText t) :
    IsFormText (s ++ t) :=
  List.forall_mem_append.mpr ⟨hs, ht⟩

theorem isFormText_cons {p : CodePoint} {t : Text} (hp : isFormPoint p = true) (ht : IsFormText t) :
    IsFormText (p :: t) :=
  List.forall_mem_cons.mpr ⟨hp, ht⟩

theorem IsBlank.isFormText {t : Text} (h : IsBlank t) : IsFormText t := by
  intro p hp
  rw [isFormPoint, h p hp, Bool.true_or]

theorem isFormText_digits {ds : List Char} (h : ∀ c ∈ ds, c.isDigit = true) :
    IsFormText (Text.ofChars ds) := by
  intro p hp
  obtain ⟨c, hc, rfl⟩ := List.mem_map.mp hp
  exact isFormPoint_of_isDigit (h c hc)

theorem isFormText_unitEscape {n : Nat} (h : n < 0x10000) : IsFormText (unitEscape n) := by
  have hdigit : ∀ d < 16, isFormPoint (.char (Nat.digitChar d)) = true := by decide
  have hmod : ∀ m, isFormPoint (.char (Nat.digitChar (m % 16))) = true :=
    fun m => hdigit _ (Nat.mod_lt m (by decide))
  rw [unitEscape_eq h]
  refine isFormText_cons (by decide) (isFormText_cons (by decide) ?_)
  exact isFormText_cons (hdigit _ (by omega)) (isFormText_cons (hmod _)
    (isFormText_cons (hmod _) (isFormText_cons (hmod _) nofun)))

theorem isFormPoint_of_escaped {e p : CodePoint} (h : escaped? e = some p) :
    isFormPoint e = true := by
  unfold escaped? at h
  split at h
  case h_9 => exact nomatch h
  all_goals decide

theorem isFormText_codePointForm (p : CodePoint) : IsFormText (codePointForm p) := by
  obtain ⟨c, e, -, hform, -, hescaped⟩ | ⟨c, rfl, hform, -, -, hplain⟩ | ⟨hsmall, hform⟩ |
    ⟨hlarge, hform⟩ := codePointForm_cases p
  · rw [hform]
    exact isFormText_cons (by decide) (isFormText_cons (isFormPoint_of_escaped hescaped) nofun)
  · have hpoint : isFormPoint (.char c) = true := by
      rw [isFormPoint, Bool.or_eq_true, decide_eq_true_eq]
      exact .inr hplain
    rw [hform]
    exact isFormText_cons hpoint nofun
  · rw [hform]
    exact isFormText_unitEscape hsmall
  · have hbounds : p.toNat < 0x110000 := CodePoint.toNat_lt p
    rw [hform]
    exact isFormText_append (isFormText_unitEscape (by omega)) (isFormText_unitEscape (by omega))

theorem isFormText_quoted (t : Text) : IsFormText (quoted t) := by
  have hcontent : IsFormText (t.flatMap codePointForm) := by
    intro q hq
    obtain ⟨p, -, hp⟩ := List.mem_flatMap.mp hq
    exact isFormText_codePointForm p q hp
  exact isFormText_append (isFormText_cons (by decide) hcontent) (by decide)

/-- A double is written with digits, signs, a point and the mark of an exponent. -/
theorem isFormText_floatForm (x : Binary64) : IsFormText (floatForm x) := by
  unfold floatForm
  split
  · decide
  · split
    · split
      · decide
      · decide
    · rename_i hnan hinfinite
      obtain ⟨f, hform, hvalid⟩ :=
        Binary64.exists_chars (Bool.eq_false_iff.mpr hnan) (Bool.eq_false_iff.mpr hinfinite)
      have hfraction : IsFormText (Text.ofChars f.fractionChars) := by
        unfold Decimal.Form.fractionChars
        split
        · exact nofun
        · exact isFormText_cons (by decide) (isFormText_digits hvalid.fraction)
      have hexponent : IsFormText (Text.ofChars f.exponentChars) := by
        unfold Decimal.Form.exponentChars
        split
        · rename_i sign digits hsome
          obtain ⟨hsign, -, hdigits⟩ := hvalid.exponent sign digits hsome
          refine isFormText_cons (by decide) (isFormText_cons ?_ (isFormText_digits hdigits))
          obtain rfl | rfl := hsign
          · decide
          · decide
        · exact nofun
      have hchars : IsFormText (Text.ofChars f.chars) := by
        have hmap : Text.ofChars f.chars = Text.ofChars f.whole ++
            (Text.ofChars f.fractionChars ++ Text.ofChars f.exponentChars) := by
          rw [Decimal.Form.chars, Text.ofChars_append, Text.ofChars_append]
        rw [hmap]
        exact isFormText_append (isFormText_digits hvalid.whole.digits)
          (isFormText_append hfraction hexponent)
      rw [Binary64.toText, hform]
      cases x.isNegative with
      | false => exact hchars
      | true => exact isFormText_cons (by decide) hchars

theorem isFormText_leaf {v : Json} (h : v.isLeaf = true) : IsFormText v.toText := by
  cases v with
  | null => decide
  | bool b => cases b <;> decide
  | int n =>
    show IsFormText (Text.ofInt n)
    have hdigits := isFormText_digits (isWhole_toDigits n.natAbs).digits
    rw [ofInt_eq]
    split
    · exact isFormText_cons (by decide) hdigits
    · exact hdigits
  | float x => exact isFormText_floatForm x
  | text t => exact isFormText_quoted t
  | array _ => exact nomatch h
  | object _ => exact nomatch h

mutual

/-- Whatever the white space, a document is written with printable points of ASCII. -/
theorem Written.isFormText {v : Json} {t : Text} (h : Written v t) : IsFormText t := by
  match h with
  | .leaf hleaf => exact isFormText_leaf hleaf
  | .emptyArray hspace | .emptyObject hspace =>
    exact isFormText_cons (by decide) (isFormText_append hspace.isFormText (by decide))
  | .array hspace hfirst hrest =>
    exact isFormText_cons (by decide) (isFormText_append hspace.isFormText
      (isFormText_append hfirst.isFormText hrest.isFormText))
  | .object hspace hfirst hrest =>
    exact isFormText_cons (by decide) (isFormText_append hspace.isFormText
      (isFormText_append hfirst.isFormText hrest.isFormText))

theorem ItemsWritten.isFormText {items : List Json} {t : Text} (h : ItemsWritten items t) :
    IsFormText t := by
  match h with
  | .nil hspace => exact isFormText_append hspace.isFormText (by decide)
  | .cons hspace hspace' hfirst hrest =>
    exact isFormText_append hspace.isFormText (isFormText_cons (by decide)
      (isFormText_append hspace'.isFormText
        (isFormText_append hfirst.isFormText hrest.isFormText)))

theorem MemberWritten.isFormText {key t : Text} {v : Json} (h : MemberWritten key v t) :
    IsFormText t := by
  match h with
  | .mk hspace hspace' hv =>
    exact isFormText_append (isFormText_quoted key) (isFormText_append hspace.isFormText
      (isFormText_cons (by decide) (isFormText_append hspace'.isFormText hv.isFormText)))

theorem MembersWritten.isFormText {members : List (Text × Json)} {t : Text}
    (h : MembersWritten members t) : IsFormText t := by
  match h with
  | .nil hspace => exact isFormText_append hspace.isFormText (by decide)
  | .cons hspace hspace' hfirst hrest =>
    exact isFormText_append hspace.isFormText (isFormText_cons (by decide)
      (isFormText_append hspace'.isFormText
        (isFormText_append hfirst.isFormText hrest.isFormText)))

end

theorem IsFormText.encodable {t : Text} (h : IsFormText t) : t.Encodable := by
  intro p hp
  cases p with
  | char c => rfl
  | lone half =>
    have hpoint := h _ hp
    rw [isFormPoint, Bool.or_eq_true, decide_eq_true_eq] at hpoint
    obtain hspace | ⟨-, hbelow⟩ := hpoint
    · simp [isSpace] at hspace
    · exact absurd (show 0xD800 + half.val ≤ 0x7E from hbelow) (by omega)

/-! ## Parts between brackets -/

/-- What follows the first part: each other one behind a comma and white space, and what closes them
    behind white space. -/
def more (space last : Text) (closing : Char) (parts : List Text) : Text :=
  parts.flatMap (fun part => .char ',' :: (space ++ part)) ++ (last ++ [.char closing])

theorem bracket_cons (opening closing : Char) (part : Text) (parts : List Text) :
    bracket opening closing (part :: parts) =
      .char opening :: ([] ++ (part ++ more [.char ' '] [] closing parts)) := by
  rw [bracket, Text.join_eq_flatMap, more, List.cons_append, List.append_assoc]
  rfl

theorem block_cons (depth : Nat) (opening closing : Char) (part : Text) (parts : List Text) :
    block depth opening closing (part :: parts) =
      .char opening :: (newline (depth + 1) ++
        (part ++ more (newline (depth + 1)) (newline depth) closing parts)) := by
  rw [block, if_neg (by simp), Text.join_eq_flatMap, more]
  simp only [List.cons_append, List.append_assoc]
  rfl

theorem isBlank_newline (depth : Nat) : IsBlank (newline depth) := by
  rw [newline, IsBlank, List.forall_mem_cons]
  refine ⟨by decide, fun p hp => ?_⟩
  rw [List.eq_of_mem_replicate hp]
  decide

section

variable {space last : Text} (hspace : IsBlank space) (hlast : IsBlank last)

include hspace hlast

theorem itemsWritten_more {items : List Json} {parts : List Text}
    (h : List.Forall₂ Written items parts) : ItemsWritten items (more space last ']' parts) := by
  induction h with
  | nil => exact .nil hlast
  | cons hfirst hrest ih =>
    rw [more, List.flatMap_cons, List.append_assoc, List.cons_append, List.append_assoc]
    exact .cons isBlank_nil hspace hfirst ih

theorem membersWritten_more {members : List (Text × Json)} {parts : List Text}
    (h : List.Forall₂ (fun m part => MemberWritten m.1 m.2 part) members parts) :
    MembersWritten members (more space last '}' parts) := by
  induction h with
  | nil => exact .nil hlast
  | cons hfirst hrest ih =>
    rw [more, List.flatMap_cons, List.append_assoc, List.cons_append, List.append_assoc]
    exact .cons isBlank_nil hspace hfirst ih

end

theorem memberWritten_member (key : Text) {v : Json} {t : Text} (h : Written v t) :
    MemberWritten key v (member key t) := by
  have hblank : IsBlank [.char ' '] := by decide
  rw [member, List.append_assoc]
  exact .mk isBlank_nil hblank h

/-! ## One line -/

mutual

theorem written_toText : (v : Json) → Written v v.toText
  | null | bool _ | int _ | float _ | text _ => .leaf rfl
  | array [] => .emptyArray isBlank_nil
  | object [] => .emptyObject isBlank_nil
  | array (item :: items) => by
    show Written _ (bracket '[' ']' (item.toText :: itemTexts items))
    rw [bracket_cons]
    exact .array isBlank_nil (written_toText item)
      (itemsWritten_more (by decide) isBlank_nil (written_itemTexts items))
  | object ((key, v) :: members) => by
    show Written _ (bracket '{' '}' (member key v.toText :: memberTexts members))
    rw [bracket_cons]
    exact .object isBlank_nil (memberWritten_member key (written_toText v))
      (membersWritten_more (by decide) isBlank_nil (written_memberTexts members))

theorem written_itemTexts : (items : List Json) → List.Forall₂ Written items (itemTexts items)
  | [] => .nil
  | item :: items => .cons (written_toText item) (written_itemTexts items)

theorem written_memberTexts : (members : List (Text × Json)) →
    List.Forall₂ (fun m part => MemberWritten m.1 m.2 part) members (memberTexts members)
  | [] => .nil
  | (key, v) :: members =>
    .cons (memberWritten_member key (written_toText v)) (written_memberTexts members)

end

/-- The reader for what comes over the wire. -/
def wire : Reading := ⟨false, Numeral.maxDigits, true⟩

theorem ofBytes?_toText (v : Json) :
    ofBytes? v.toText.utf8 =
      if v.isReadable wire (maxLevels + 1) then some (v.readBack wire) else none := by
  have hwritten := written_toText v
  obtain ⟨cs, hcs⟩ := Text.exists_ofChars_of_encodable hwritten.isFormText.encodable
  have hread := read_written (r := wire) (by decide) hwritten isBlank_nil isBlank_nil (maxLevels + 1)
  rw [List.append_nil, List.nil_append] at hread
  have hbytes : Utf8.decode? v.toText.utf8 = some cs := by
    rw [hcs]
    exact Text.decode?_utf8 cs
  rw [ofBytes?, hbytes, ← hread]
  show read wire (maxLevels + 1) (Text.ofChars cs) = _
  rw [← hcs]

/-! ## Several lines -/

mutual

theorem written_toLines (depth : Nat) : (v : Json) → Written v (v.toLines depth)
  | null => .leaf (v := null) rfl
  | bool b => .leaf (v := bool b) rfl
  | int n => .leaf (v := int n) rfl
  | float x => .leaf (v := float x) rfl
  | text t => .leaf (v := text t) rfl
  | array [] => .emptyArray isBlank_nil
  | object [] => .emptyObject isBlank_nil
  | array (item :: items) => by
    show Written _ (block depth '[' ']' (item.toLines (depth + 1) :: itemLines (depth + 1) items))
    rw [block_cons]
    exact .array (isBlank_newline _) (written_toLines (depth + 1) item)
      (itemsWritten_more (isBlank_newline _) (isBlank_newline _) (written_itemLines (depth + 1) items))
  | object ((key, v) :: members) => by
    show Written _ (block depth '{' '}'
      (member key (v.toLines (depth + 1)) :: memberLines (depth + 1) members))
    rw [block_cons]
    exact .object (isBlank_newline _) (memberWritten_member key (written_toLines (depth + 1) v))
      (membersWritten_more (isBlank_newline _) (isBlank_newline _)
        (written_memberLines (depth + 1) members))

theorem written_itemLines (depth : Nat) :
    (items : List Json) → List.Forall₂ Written items (itemLines depth items)
  | [] => .nil
  | item :: items => .cons (written_toLines depth item) (written_itemLines depth items)

theorem written_memberLines (depth : Nat) : (members : List (Text × Json)) →
    List.Forall₂ (fun m part => MemberWritten m.1 m.2 part) members (memberLines depth members)
  | [] => .nil
  | (key, v) :: members =>
    .cons (memberWritten_member key (written_toLines depth v)) (written_memberLines depth members)

end

end Json

end ImageDiscovery
