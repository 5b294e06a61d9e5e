import ImageDiscovery.Proofs.Json.Forms
import ImageDiscovery.Proofs.Json.NumberForms
import ImageDiscovery.Proofs.Json.TextForms
import Mathlib.Data.List.DropRight

/-!
# Documents — what is read is what the grammar says

A reader that keeps all members and takes no half of a pair by itself reads the documents of its
dialect, each as what it stands for, and nothing else.
-/

namespace ImageDiscovery

namespace Json

variable {r : Reading} {t rest space : Text} {v : Json} {levels : Nat}

/-! ## Leaves -/

theorem eq_of_word? {word : String} (h : word? word t = some rest) : t = word ++ rest := by
  unfold word? at h
  split at h
  · rename_i hprefix
    obtain ⟨behind, rfl⟩ := List.isPrefixOf_iff_prefix.mp hprefix
    have hlength : (Text.ofString word).length = word.length := by
      rw [Text.ofString, Text.ofChars, List.length_map, String.length_toList]
    rw [← hlength, List.drop_left] at h
    rw [Option.some.inj h]
  · cases h

theorem eq_of_map_word? {word : String} {w : Json}
    (h : (word? word t).map (w, ·) = some (v, rest)) : w = v ∧ t = word ++ rest := by
  obtain ⟨behind, hword, heq⟩ := Option.map_eq_some_iff.mp h
  cases heq
  exact ⟨rfl, eq_of_word? hword⟩

theorem exists_number {negative : Bool} (h : readNumber r negative t = some (v, rest)) :
    ∃ form, LeafForm r.dialect form v ∧
      (if negative then .char '-' :: t else t) = form ++ rest := by
  obtain ⟨f, hvalid, hmax, rfl, rfl, rfl⟩ := of_readNumber h
  refine ⟨_, .number hvalid hmax, ?_⟩
  unfold NumberForm.chars
  split
  · rfl
  · rfl

theorem of_readLeaf (hr : r.loneSurrogates = false) (ht : t.Encodable)
    (h : readLeaf r t = some (v, rest)) : ∃ form, LeafForm r.dialect form v ∧ t = form ++ rest := by
  unfold readLeaf at h
  split at h
  · obtain ⟨⟨content, behind⟩, hread, heq⟩ := Option.map_eq_some_iff.mp h
    cases heq
    obtain ⟨form, hform, htext⟩ := of_readText hr (fun p hp => ht p (.tail _ hp)) hread
    exact ⟨form, .text hform, htext⟩
  · obtain ⟨rfl, htext⟩ := eq_of_map_word? h
    exact ⟨_, .null, htext⟩
  · obtain ⟨rfl, htext⟩ := eq_of_map_word? h
    exact ⟨_, .bool true, htext⟩
  · obtain ⟨rfl, htext⟩ := eq_of_map_word? h
    exact ⟨_, .bool false, htext⟩
  · obtain ⟨rfl, htext⟩ := eq_of_map_word? h
    exact ⟨_, .nan rfl, htext⟩
  · obtain ⟨rfl, htext⟩ := eq_of_map_word? h
    exact ⟨_, .infinity rfl, htext⟩
  · obtain ⟨rfl, htext⟩ := eq_of_map_word? h
    exact ⟨_, .minusInfinity rfl, congrArg (.char '-' :: ·) htext⟩
  · exact exists_number h
  · exact exists_number h

theorem LeafForm.readLeaf (h : LeafForm r.dialect t v) (hrest : EndsNumber rest) :
    readLeaf r (t ++ rest) = some (v, rest) := by
  cases h with
  | null => exact map_word?_append "null" Json.null rest
  | bool b =>
    cases b with
    | true => exact map_word?_append "true" (.bool true) rest
    | false => exact map_word?_append "false" (.bool false) rest
  | number hvalid hmax =>
    rw [NumberForm.chars, readLeaf_signed _ hvalid.whole]
    exact readNumber_of_isValid hvalid hmax hrest
  | text htext =>
    obtain ⟨behind, rfl, hread⟩ := htext.exists_readText
    show (readText r (behind ++ rest)).map _ = _
    rw [hread]
    rfl
  | nan => exact map_word?_append "NaN" (float .nan) rest
  | infinity => exact map_word?_append "Infinity" (float .infinity) rest
  | minusInfinity => exact map_word?_append "Infinity" (float Binary64.infinity.neg) rest

theorem LeafForm.exists_cons {d : Dialect} (h : LeafForm d t v) :
    ∃ p t', t = p :: t' ∧ isLeafStart p = true := by
  cases h with
  | null => exact ⟨.char 'n', _, rfl, by decide⟩
  | bool b =>
    cases b with
    | true => exact ⟨.char 't', _, rfl, by decide⟩
    | false => exact ⟨.char 'f', _, rfl, by decide⟩
  | number hvalid => exact exists_cons_signed _ hvalid.whole _
  | text htext =>
    obtain ⟨behind, rfl, -⟩ := htext.exists_readText
    exact ⟨.char '"', _, rfl, by decide⟩
  | nan => exact ⟨.char 'N', _, rfl, by decide⟩
  | infinity => exact ⟨.char 'I', _, rfl, by decide⟩
  | minusInfinity => exact ⟨.char '-', _, rfl, by decide⟩

/-! ## What is read of lists and objects -/

theorem exists_blank (t : Text) : ∃ space, IsBlank space ∧ t = space ++ skipSpace t :=
  ⟨t.takeWhile isSpace, fun p hp => List.all_eq_true.mp List.all_takeWhile p hp,
    List.takeWhile_append_dropWhile.symm⟩

/-- What a reader takes off a text with a form is a value of the dialect. -/
def ReadsForms (d : Dialect) (levels : Nat) (value : Text → Option (Json × Text)) : Prop :=
  ∀ {t rest : Text} {v : Json}, t.Encodable → value t = some (v, rest) →
    ∃ form, ValueForm d levels form v ∧ t = form ++ rest

variable {d : Dialect} {value : Text → Option (Json × Text)}

/-- White space, a mark, and a value that is read behind it. -/
theorem exists_value_behind (hvalue : ReadsForms d levels value) {behind : Text}
    (hbehind : behind.Encodable) (h : value (skipSpace behind) = some (v, rest)) :
    ∃ space form, IsBlank space ∧ ValueForm d levels form v ∧ behind = space ++ (form ++ rest) ∧
      rest.Encodable := by
  obtain ⟨space, hspace, htext⟩ := exists_blank behind
  have hskipped : (skipSpace behind).Encodable := by
    rw [htext] at hbehind
    exact encodable_append_right hbehind
  obtain ⟨form, hform, hread⟩ := hvalue hskipped h
  rw [hread] at htext hskipped
  exact ⟨space, form, hspace, hform, htext, encodable_append_right hskipped⟩

theorem of_readItems (hvalue : ReadsForms d levels value) {fuel : Nat} {items : List Json}
    (ht : t.Encodable) (h : readItems value fuel t = some (items, rest)) :
    ∃ form, ItemForms d levels form items ∧ t = form ++ rest := by
  induction fuel generalizing t items with
  | zero => cases h
  | succ fuel ih =>
    obtain ⟨space, hspace, htext⟩ := exists_blank t
    unfold readItems at h
    split at h
    · rename_i hclosing
      cases h
      exact ⟨_, .nil hspace, by rw [htext, hclosing, List.append_assoc]; rfl⟩
    · rename_i behind hcomma
      obtain ⟨⟨item, after⟩, hitem, h⟩ := Option.bind_eq_some_iff.mp h
      obtain ⟨⟨others, last⟩, hitems, heq⟩ := Option.bind_eq_some_iff.mp h
      cases heq
      rw [hcomma] at htext
      rw [htext] at ht
      have hbehind : Text.Encodable behind := fun p hp =>
        ht p (List.mem_append_right _ (.tail _ hp))
      obtain ⟨space', first, hspace', hfirst, rfl, hafter⟩ := exists_value_behind hvalue hbehind hitem
      obtain ⟨form, hform, rfl⟩ := ih hafter hitems
      refine ⟨_, .cons hspace hspace' hfirst hform, ?_⟩
      rw [htext]
      simp only [List.append_assoc, List.cons_append]
    · cases h

theorem of_readMember (hr : r.loneSurrogates = false) (hvalue : ReadsForms d levels value)
    {member : Text × Json} (ht : t.Encodable) (h : readMember r value t = some (member, rest)) :
    ∃ space form, IsBlank space ∧ MemberForm d levels form member ∧ t = space ++ (form ++ rest) ∧
      rest.Encodable := by
  obtain ⟨space, hspace, htext⟩ := exists_blank t
  unfold readMember at h
  split at h
  · rename_i behind hquote
    obtain ⟨⟨key, after⟩, hkey, h⟩ := Option.bind_eq_some_iff.mp h
    rw [hquote] at htext
    rw [htext] at ht
    have hname : Text.Encodable behind := fun p hp => ht p (List.mem_append_right _ (.tail _ hp))
    obtain ⟨name, hform, hread⟩ := of_readText hr hname hkey
    rw [hread] at htext ht
    have hafter : Text.Encodable after := encodable_append_right (encodable_append_right ht)
    obtain ⟨space', hspace', hcolon⟩ := exists_blank after
    dsimp only at h
    split at h
    · rename_i last hlast
      obtain ⟨⟨v, end_⟩, hv, heq⟩ := Option.bind_eq_some_iff.mp h
      cases heq
      rw [hlast] at hcolon
      rw [hcolon] at hafter
      have hbehind : Text.Encodable last := fun p hp =>
        hafter p (List.mem_append_right _ (.tail _ hp))
      obtain ⟨space'', form, hspace'', hvform, rfl, hrest⟩ := exists_value_behind hvalue hbehind hv
      refine ⟨space, _, hspace, .mk hform hspace' hspace'' hvform, ?_, hrest⟩
      rw [htext, hcolon]
      simp only [List.append_assoc, List.cons_append]
    · exact nomatch h
  · exact nomatch h

theorem readMember_skipSpace (r : Reading) (value : Text → Option (Json × Text)) (t : Text) :
    readMember r value (skipSpace t) = readMember r value t := by
  unfold readMember
  rw [skipSpace, skipSpace, List.dropWhile_idempotent]

theorem of_readMembers (hr : r.loneSurrogates = false) (hvalue : ReadsForms d levels value)
    {fuel : Nat} {members : List (Text × Json)} (ht : t.Encodable)
    (h : readMembers r value fuel t = some (members, rest)) :
    ∃ form, MemberForms d levels form members ∧ t = form ++ rest := by
  induction fuel generalizing t members with
  | zero => cases h
  | succ fuel ih =>
    obtain ⟨space, hspace, htext⟩ := exists_blank t
    unfold readMembers at h
    split at h
    · rename_i hclosing
      cases h
      exact ⟨_, .nil hspace, by rw [htext, hclosing, List.append_assoc]; rfl⟩
    · rename_i behind hcomma
      obtain ⟨⟨member, after⟩, hmember, h⟩ := Option.bind_eq_some_iff.mp h
      obtain ⟨⟨others, last⟩, hmembers, heq⟩ := Option.bind_eq_some_iff.mp h
      cases heq
      rw [hcomma] at htext
      rw [htext] at ht
      have hbehind : Text.Encodable behind := fun p hp =>
        ht p (List.mem_append_right _ (.tail _ hp))
      obtain ⟨space', first, hspace', hfirst, rfl, hafter⟩ := of_readMember hr hvalue hbehind hmember
      obtain ⟨form, hform, rfl⟩ := ih hafter hmembers
      refine ⟨_, .cons hspace hspace' hfirst hform, ?_⟩
      rw [htext]
      simp only [List.append_assoc, List.cons_append]
    · cases h

/-- A value is taken off as a form of it. -/
theorem readsForms_readValue (hr : r.loneSurrogates = false) (hrepeats : r.repeats = true)
    (levels : Nat) : ReadsForms r.dialect levels (readValue r levels) := by
  induction levels with
  | zero => exact fun _ h => nomatch h
  | succ levels ih =>
    intro t rest v ht h
    unfold readValue at h
    split at h
    · rename_i behind
      have hbehind : Text.Encodable behind := fun p hp => ht p (.tail _ hp)
      split at h
      · rename_i hclosing
        cases h
        obtain ⟨space, hspace, htext⟩ := exists_blank behind
        exact ⟨_, .emptyArray hspace, by rw [htext, hclosing]; simp⟩
      · obtain ⟨⟨item, after⟩, hitem, h⟩ := Option.bind_eq_some_iff.mp h
        obtain ⟨⟨items, last⟩, hitems, heq⟩ := Option.bind_eq_some_iff.mp h
        cases heq
        obtain ⟨space, first, hspace, hfirst, rfl, hafter⟩ := exists_value_behind ih hbehind hitem
        obtain ⟨form, hform, rfl⟩ := of_readItems ih hafter hitems
        exact ⟨_, .array hspace hfirst hform, by simp⟩
    · rename_i behind
      have hbehind : Text.Encodable behind := fun p hp => ht p (.tail _ hp)
      split at h
      · rename_i hclosing
        cases h
        obtain ⟨space, hspace, htext⟩ := exists_blank behind
        exact ⟨_, .emptyObject hspace, by rw [htext, hclosing]; simp⟩
      · obtain ⟨⟨member, after⟩, hmember, h⟩ := Option.bind_eq_some_iff.mp h
        obtain ⟨⟨members, last⟩, hmembers, heq⟩ := Option.bind_eq_some_iff.mp h
        cases heq
        rw [readMember_skipSpace] at hmember
        obtain ⟨space, first, hspace, hfirst, rfl, hafter⟩ := of_readMember hr ih hbehind hmember
        obtain ⟨form, hform, rfl⟩ := of_readMembers hr ih hafter hmembers
        rw [show r.members (member :: members) = member :: members from if_pos hrepeats]
        exact ⟨_, .object hspace hfirst hform, by simp⟩
    · obtain ⟨form, hform, htext⟩ := of_readLeaf hr ht h
      exact ⟨form, .leaf hform, htext⟩

/-! ## Forms that are read -/

theorem ValueForm.begins (h : ValueForm d levels t v) : Begins t := by
  cases h with
  | leaf hleaf =>
    obtain ⟨p, t', rfl, hp⟩ := hleaf.exists_cons
    exact begins_of_isLeafStart hp t'
  | emptyArray | array => exact ⟨.char '[', _, rfl, by decide, by decide⟩
  | emptyObject | object => exact ⟨.char '{', _, rfl, by decide, by decide⟩

theorem MemberForm.exists_quote {member : Text × Json} (h : MemberForm d levels t member) :
    ∃ t', t = .char '"' :: t' := by
  obtain ⟨hname, -, -, -⟩ := h
  obtain ⟨behind, rfl, -⟩ := hname.exists_readText
  exact ⟨_, rfl⟩

theorem ItemForms.isFollowed {items : List Json} (h : ItemForms d levels t items) (rest : Text) :
    IsFollowed (t ++ rest) := by
  cases h with
  | nil hspace => exact ⟨_, _, rest, hspace, List.append_assoc _ _ _, .inr (.inl rfl)⟩
  | cons hspace => exact ⟨_, _, _, hspace, List.append_assoc _ _ _, .inl rfl⟩

theorem MemberForms.isFollowed {members : List (Text × Json)} (h : MemberForms d levels t members)
    (rest : Text) : IsFollowed (t ++ rest) := by
  cases h with
  | nil hspace => exact ⟨_, _, rest, hspace, List.append_assoc _ _ _, .inr (.inr rfl)⟩
  | cons hspace => exact ⟨_, _, _, hspace, List.append_assoc _ _ _, .inl rfl⟩

theorem ItemForms.length_le {items : List Json} (h : ItemForms d levels t items) :
    items.length ≤ t.length := by
  induction items generalizing t with
  | nil => exact Nat.zero_le _
  | cons item items ih =>
    cases h with
    | cons hspace hspace' hfirst hrest =>
      have hle := ih hrest
      simp only [List.length_cons, List.length_append]
      omega

theorem MemberForms.length_le {members : List (Text × Json)} (h : MemberForms d levels t members) :
    members.length ≤ t.length := by
  induction members generalizing t with
  | nil => exact Nat.zero_le _
  | cons member members ih =>
    cases h with
    | cons hspace hspace' hfirst hrest =>
      have hle := ih hrest
      simp only [List.length_cons, List.length_append]
      omega

theorem readValue_leafForm (h : LeafForm d t v) (levels : Nat) (rest : Text) :
    readValue r (levels + 1) (t ++ rest) = readLeaf r (t ++ rest) := by
  obtain ⟨p, t', rfl, hp⟩ := h.exists_cons
  have harray := ne_of_isLeafStart hp (show isLeafStart (.char '[') = false by decide)
  have hobject := ne_of_isLeafStart hp (show isLeafStart (.char '{') = false by decide)
  rw [List.cons_append, readValue]
  · exact fun _ heq => absurd (List.cons.inj heq).1 harray
  · exact fun _ heq => absurd (List.cons.inj heq).1 hobject

-- by recursion on the form: each part is followed by what no number has, and there is fuel for all parts
mutual

theorem ValueForm.readValue (hrepeats : r.repeats = true) {levels : Nat} {t rest : Text} {v : Json}
    (h : ValueForm r.dialect levels t v) (hrest : EndsNumber rest) :
    Json.readValue r levels (t ++ rest) = some (v, rest) := by
  match h with
  | .leaf hleaf => rw [readValue_leafForm hleaf, hleaf.readLeaf hrest]
  | .emptyArray hspace =>
    rw [List.cons_append, List.append_assoc, Json.readValue, skipSpace_append hspace]
    rfl
  | .emptyObject hspace =>
    rw [List.cons_append, List.append_assoc, Json.readValue, skipSpace_append hspace]
    rfl
  | .array hspace hfirst hothers =>
    have hitem := hfirst.readValue hrepeats (hothers.isFollowed rest).endsNumber
    have hitems := hothers.readItems hrepeats rest
    rw [List.cons_append, List.append_assoc, List.append_assoc, readValue_array hspace hfirst.begins,
      hitem]
    show (Json.readItems _ _ _ >>= _) = _
    rw [hitems _ (by rw [List.length_append]; have := hothers.length_le; omega)]
    rfl
  | .object hspace hfirst hothers =>
    have hmember := hfirst.readMember hrepeats isBlank_nil (hothers.isFollowed rest).endsNumber
    have hmembers := hothers.readMembers hrepeats rest
    obtain ⟨t', rfl⟩ := hfirst.exists_quote
    rw [List.nil_append] at hmember
    rw [List.cons_append, List.append_assoc, List.append_assoc, List.cons_append,
      readValue_object hspace, ← List.cons_append, hmember]
    show (Json.readMembers _ _ _ _ >>= _) = _
    rw [hmembers _ (by rw [List.length_append]; have := hothers.length_le; omega)]
    exact congrArg (fun members => some (object members, rest)) (if_pos hrepeats)

theorem ItemForms.readItems (hrepeats : r.repeats = true) {levels : Nat} {t : Text}
    {items : List Json} (h : ItemForms r.dialect levels t items) (rest : Text) (fuel : Nat)
    (hfuel : items.length < fuel) :
    Json.readItems (Json.readValue r levels) fuel (t ++ rest) = some (items, rest) := by
  obtain ⟨fuel, rfl⟩ := Nat.exists_eq_succ_of_ne_zero (Nat.ne_zero_of_lt hfuel)
  match h with
  | .nil hspace =>
    rw [List.append_assoc, Json.readItems, skipSpace_append hspace]
    rfl
  | .cons hspace hspace' hfirst hothers =>
    have hitem := hfirst.readValue hrepeats (hothers.isFollowed rest).endsNumber
    have hitems := hothers.readItems hrepeats rest fuel (Nat.lt_of_succ_lt_succ hfuel)
    rw [List.append_assoc, List.cons_append, List.append_assoc, List.append_assoc,
      readItems_cons hspace hspace' hfirst.begins, hitem]
    show (Json.readItems _ _ _ >>= _) = _
    rw [hitems]
    rfl

theorem MemberForm.readMember (hrepeats : r.repeats = true) {levels : Nat} {before t rest : Text}
    {member : Text × Json} (h : MemberForm r.dialect levels t member) (hbefore : IsBlank before)
    (hrest : EndsNumber rest) :
    Json.readMember r (Json.readValue r levels) (before ++ (t ++ rest)) = some (member, rest) := by
  match h with
  | .mk hname hspace hspace' hv =>
    have hvalue := hv.readValue hrepeats hrest
    obtain ⟨behind, rfl, hread⟩ := hname.exists_readText
    rw [List.cons_append, List.cons_append, Json.readMember, skipSpace_append hbefore,
      skipSpace_cons (by decide), List.append_assoc]
    show (readText r _ >>= _) = _
    rw [hread, Option.bind_eq_bind, Option.bind_some]
    dsimp only
    rw [List.append_assoc, List.cons_append, List.append_assoc, skipSpace_append hspace,
      skipSpace_cons (by decide)]
    show (Json.readValue r _ (skipSpace _) >>= _) = _
    rw [hv.begins.skipSpace_append hspace', hvalue]
    rfl

theorem MemberForms.readMembers (hrepeats : r.repeats = true) {levels : Nat} {t : Text}
    {members : List (Text × Json)} (h : MemberForms r.dialect levels t members) (rest : Text)
    (fuel : Nat) (hfuel : members.length < fuel) :
    Json.readMembers r (Json.readValue r levels) fuel (t ++ rest) = some (members, rest) := by
  obtain ⟨fuel, rfl⟩ := Nat.exists_eq_succ_of_ne_zero (Nat.ne_zero_of_lt hfuel)
  match h with
  | .nil hspace =>
    rw [List.append_assoc, Json.readMembers, skipSpace_append hspace]
    rfl
  | .cons hspace hspace' hfirst hothers =>
    have hmember := hfirst.readMember hrepeats hspace' (hothers.isFollowed rest).endsNumber
    have hmembers := hothers.readMembers hrepeats rest fuel (Nat.lt_of_succ_lt_succ hfuel)
    rw [List.append_assoc, List.cons_append, List.append_assoc, List.append_assoc,
      readMembers_cons hspace, hmember]
    show (Json.readMembers _ _ _ _ >>= _) = _
    rw [hmembers]
    rfl

end

/-! ## Whole documents -/

theorem IsDocument.read (hrepeats : r.repeats = true) (h : IsDocument r.dialect levels t v) :
    read r levels t = some v := by
  obtain ⟨space, form, space', hspace, hform, hspace', rfl⟩ := h.value
  have hread := hform.readValue hrepeats hspace'.endsNumber
  rw [Json.read, hform.begins.skipSpace_append hspace, hread]
  show (if (skipSpace space').isEmpty then _ else _) = _
  rw [hspace'.skipSpace_eq_nil]
  rfl

theorem isDocument_of_read (hr : r.loneSurrogates = false) (hrepeats : r.repeats = true)
    (ht : t.Encodable) (h : read r levels t = some v) : IsDocument r.dialect levels t v := by
  unfold read at h
  split at h
  · rename_i value rest hvalue
    split at h
    · rename_i hempty
      cases h
      obtain ⟨space, form, hspace, hform, rfl, -⟩ :=
        exists_value_behind (readsForms_readValue hr hrepeats levels) ht hvalue
      obtain ⟨space', hspace', hrest⟩ := exists_blank rest
      rw [List.isEmpty_iff.mp hempty, List.append_nil] at hrest
      exact ⟨space, form, rest, hspace, hform, hrest ▸ hspace', rfl⟩
    · exact nomatch h
  · exact nomatch h

/-- The bytes are the UTF-8 form of a document. -/
structure IsWritten (d : Dialect) (levels : Nat) (bytes : Bytes) (v : Json) : Prop where
  text : ∃ t, t.Encodable ∧ t.utf8 = bytes ∧ IsDocument d levels t v

/-- What comes over the wire is read as what it stands for, and is not read if it is no document. -/
theorem ofBytes?_eq_some_iff {bytes : Bytes} :
    ofBytes? bytes = some v ↔ IsWritten wire.dialect (maxLevels + 1) bytes v := by
  constructor
  · intro h
    obtain ⟨cs, hcs, hread⟩ := Option.bind_eq_some_iff.mp h
    have hencodable := Text.encodable_ofChars cs
    exact ⟨_, hencodable, Text.utf8_of_decode? hcs,
      isDocument_of_read (r := wire) rfl rfl hencodable hread⟩
  · intro h
    obtain ⟨t, hencodable, rfl, hdocument⟩ := h.text
    obtain ⟨cs, rfl⟩ := Text.exists_ofChars_of_encodable hencodable
    rw [ofBytes?, Text.decode?_utf8]
    exact hdocument.read rfl

end Json

end ImageDiscovery
