import ImageDiscovery.Proofs.Json.Number
import ImageDiscovery.Proofs.Json.Quoted

/-!
# Round trip — what the reader makes of a document that is written out

A document may be written with whatever white space between its parts.  Each of these forms is read as
far as the reader's bounds reach: nesting, the length of whole numbers, and halves of surrogate pairs.
Within them every leaf but a double and a text with halves comes back as it is, items in their order,
and of members whose names become the same one all or the last; beyond them nothing is read at all.
-/

namespace ImageDiscovery

namespace Json

/-! ## The bounds of a reader -/

mutual

/-- Does a reader that goes `levels` deep take a document? -/
def isReadable (r : Reading) : (levels : Nat) → Json → Bool
  | 0, _ => false
  | _ + 1, int n => (Text.ofInt n).length ≤ r.maxDigits
  | _ + 1, text t => r.takes t
  | levels + 1, array items => itemsReadable r levels items
  | levels + 1, object members => membersReadable r levels members
  | _ + 1, _ => true

def itemsReadable (r : Reading) (levels : Nat) : List Json → Bool
  | [] => true
  | item :: items => isReadable r levels item && itemsReadable r levels items

def membersReadable (r : Reading) (levels : Nat) : List (Text × Json) → Bool
  | [] => true
  | (name, value) :: members =>
    r.takes name && isReadable r levels value && membersReadable r levels members

end

theorem isReadable_zero (r : Reading) (v : Json) : isReadable r 0 v = false := by
  cases v <;> rfl

/-! ## What is read -/

theorem Reading.members_nil (r : Reading) : r.members [] = [] := ite_self _

/-- The double that is read where a double was written. -/
def floatBack (x : Binary64) : Binary64 :=
  match readLeaf ⟨false, Numeral.maxDigits, false⟩ (floatForm x) with
  | some (float y, _) => y
  | _ => x

mutual

/-- What a reader makes of a document. -/
def readBack (r : Reading) : Json → Json
  | float x => float (floatBack x)
  | text t => text (joined none t)
  | array items => array (itemsBack r items)
  | object members => object (r.members (membersBack r members))
  | leaf => leaf

def itemsBack (r : Reading) : List Json → List Json
  | [] => []
  | item :: items => readBack r item :: itemsBack r items

def membersBack (r : Reading) : List (Text × Json) → List (Text × Json)
  | [] => []
  | (name, value) :: members => (joined none name, readBack r value) :: membersBack r members

end

/-! ## Words and numbers -/

section

variable {r : Reading} {rest : Text}

theorem word?_append (word : String) (rest : Text) : word? word (word ++ rest) = some rest := by
  have hprefix : (Text.ofString word).isPrefixOf (Text.ofString word ++ rest) = true :=
    List.isPrefixOf_iff_prefix.mpr (List.prefix_append _ _)
  have hlength : (Text.ofString word).length = word.length := by
    rw [Text.ofString, Text.ofChars, List.length_map, String.length_toList]
  rw [word?, if_pos hprefix, ← hlength, List.drop_left]

/-- A word that stands for a document is read as it. -/
theorem map_word?_append (word : String) (v : Json) (rest : Text) :
    (word? word (word ++ rest)).map (v, ·) = some (v, rest) :=
  congrArg (Option.map (v, ·)) (word?_append word rest)

theorem readLeaf_digit {d : Char} (h : d.isDigit = true) (t : Text) :
    readLeaf r (.char d :: t) = readNumber r false (.char d :: t) := by
  unfold readLeaf
  split
  case h_9 => rfl
  all_goals
    rename_i heq
    obtain rfl := CodePoint.char.inj (List.cons.inj heq).1
    exact absurd h (by decide)

theorem readLeaf_minus {d : Char} (h : d.isDigit = true) (t : Text) :
    readLeaf r (.char '-' :: .char d :: t) = readNumber r true (.char d :: t) := by
  unfold readLeaf
  split
  case h_7 heq =>
    obtain rfl := CodePoint.char.inj (List.cons.inj (List.cons.inj heq).2).1
    exact absurd h (by decide)
  case h_8 heq => rw [(List.cons.inj heq).2]
  case h_9 hminus => exact absurd rfl (hminus _)
  all_goals
    rename_i heq
    cases heq

/-- A numeral is read with its sign. -/
theorem readLeaf_signed (negative : Bool) {whole : List Char} (hwhole : Decimal.Form.IsWhole whole)
    (more : List Char) (t : Text) :
    readLeaf r (Text.ofChars (if negative then '-' :: (whole ++ more) else whole ++ more) ++ t) =
      readNumber r negative (Text.ofChars (whole ++ more) ++ t) := by
  obtain ⟨d, ds, rfl⟩ := List.exists_cons_of_ne_nil hwhole.ne_nil
  have hd : d.isDigit = true := hwhole.digits d List.mem_cons_self
  cases negative with
  | false => exact readLeaf_digit hd _
  | true => exact readLeaf_minus hd _

/-! ## Leaves -/

theorem isWhole_toDigits (n : Nat) : Decimal.Form.IsWhole (Nat.toDigits 10 n) where
  ne_nil := Nat.toDigits_ne_nil
  digits := fun _ hc => Nat.isDigit_of_mem_toDigits (by decide) (by decide) hc
  leading := by
    intro hhead
    by_cases hn : n = 0
    · rw [hn]
      rfl
    · exact absurd hhead (Numeral.head?_toDigits hn)

/-- A whole number is its digits behind its sign. -/
theorem ofInt_eq (n : Int) :
    Text.ofInt n = Text.ofChars
      (if decide (n < 0) then '-' :: Nat.toDigits 10 n.natAbs else Nat.toDigits 10 n.natAbs) := by
  cases n with
  | ofNat n => rfl
  | negSucc n =>
    rw [if_pos (decide_eq_true (Int.negSucc_lt_zero n))]
    rfl

theorem readLeaf_int (n : Int) (hrest : EndsNumber rest) :
    readLeaf r (Text.ofInt n ++ rest) =
      if (Text.ofInt n).length ≤ r.maxDigits then some (int n, rest) else none := by
  have hwhole := isWhole_toDigits n.natAbs
  have hlength : (Text.ofInt n).length = (Nat.toDigits 10 n.natAbs).length + (decide (n < 0)).toNat := by
    rw [ofInt_eq, Text.ofChars, List.length_map]
    cases decide (n < 0) <;> rfl
  have hvalue : (if decide (n < 0) then -(n.natAbs : Int) else n.natAbs) = n := by
    by_cases hn : n < 0
    · rw [if_pos (decide_eq_true hn)]
      omega
    · rw [if_neg (by simpa using hn)]
      omega
  have hread : readLeaf r (Text.ofInt n ++ rest) =
      readNumber r (n < 0) (Text.ofChars (Nat.toDigits 10 n.natAbs) ++ rest) := by
    have hsigned := readLeaf_signed (r := r) (decide (n < 0)) hwhole [] rest
    rwa [List.append_nil, ← ofInt_eq] at hsigned
  rw [hread, hlength, readNumber_whole _ hwhole hrest, Numeral.value_toDigits, hvalue]
  by_cases hmax : (Nat.toDigits 10 n.natAbs).length + (decide (n < 0)).toNat ≤ r.maxDigits
  · rw [if_neg (Nat.not_lt.mpr hmax), if_pos hmax]
  · rw [if_pos (Nat.not_le.mp hmax), if_neg hmax]

/-- Some double is read where a double was written, the same for all readers. -/
theorem exists_readLeaf_float (x : Binary64) :
    ∃ y, ∀ (r : Reading) (rest : Text), 17 ≤ r.maxDigits → EndsNumber rest →
      readLeaf r (floatForm x ++ rest) = some (float y, rest) := by
  unfold floatForm
  by_cases hnan : x.isNaN = true
  · refine ⟨.nan, fun r rest _ _ => ?_⟩
    rw [if_pos hnan]
    exact map_word?_append "NaN" _ rest
  rw [if_neg hnan]
  by_cases hinfinite : x.isInfinite = true
  · by_cases hnegative : x.isNegative = true
    · refine ⟨Binary64.infinity.neg, fun r rest _ _ => ?_⟩
      rw [if_pos hinfinite, if_pos hnegative]
      exact map_word?_append "Infinity" _ rest
    · refine ⟨.infinity, fun r rest _ _ => ?_⟩
      rw [if_pos hinfinite, if_neg hnegative]
      exact map_word?_append "Infinity" _ rest
  rw [if_neg hinfinite]
  obtain ⟨f, hform, hvalid⟩ :=
    Binary64.exists_chars (Bool.eq_false_iff.mpr hnan) (Bool.eq_false_iff.mpr hinfinite)
  obtain ⟨y, hy⟩ := exists_readNumber_form x.isNegative hvalid
  refine ⟨y, fun r rest hmax hrest => ?_⟩
  have hsign : x.isNegative.toNat ≤ 1 := Bool.toNat_le _
  have hlength : f.whole.length + x.isNegative.toNat ≤ r.maxDigits := by
    have := hvalid.length_le
    omega
  rw [Binary64.toText, hform, Decimal.Form.chars, readLeaf_signed _ hvalid.whole]
  exact hy r rest hlength hrest

theorem readLeaf_float (x : Binary64) (hr : 17 ≤ r.maxDigits) (hrest : EndsNumber rest) :
    readLeaf r (floatForm x ++ rest) = some (float (floatBack x), rest) := by
  obtain ⟨y, hy⟩ := exists_readLeaf_float x
  have hback : floatBack x = y := by
    have hplain := hy ⟨false, Numeral.maxDigits, false⟩ [] (by decide) nofun
    rw [List.append_nil] at hplain
    rw [floatBack, hplain]
  rw [hback]
  exact hy r rest hr hrest

/-- A document without items and members. -/
def isLeaf : Json → Bool
  | array _ | object _ => false
  | _ => true

theorem readLeaf_toText {v : Json} (hleaf : v.isLeaf = true) (levels : Nat) (hr : 17 ≤ r.maxDigits)
    (hrest : EndsNumber rest) :
    readLeaf r (v.toText ++ rest) =
      if v.isReadable r (levels + 1) then some (v.readBack r, rest) else none := by
  cases v with
  | null => exact map_word?_append "null" null rest
  | bool b =>
    cases b with
    | true => exact map_word?_append "true" (bool true) rest
    | false => exact map_word?_append "false" (bool false) rest
  | int n =>
    show readLeaf r (Text.ofInt n ++ rest) = if decide _ then some (int n, rest) else none
    rw [readLeaf_int n hrest]
    simp only [decide_eq_true_eq]
  | float x => exact readLeaf_float x hr hrest
  | text t =>
    show (readText r ((t.flatMap codePointForm ++ [.char '"']) ++ rest)).map _ =
      if r.takes t then _ else _
    rw [List.append_assoc, List.singleton_append, readText_written]
    split <;> rfl
  | array _ => exact nomatch hleaf
  | object _ => exact nomatch hleaf

/-! ## What documents begin with -/

/-- The first code point of a leaf. -/
def isLeafStart (p : CodePoint) : Bool :=
  p.isDigit || (Text.ofString "\"-ntfNI").contains p

theorem exists_cons_signed (negative : Bool) {whole : List Char}
    (hwhole : Decimal.Form.IsWhole whole) (more : List Char) :
    ∃ p t, Text.ofChars (if negative then '-' :: (whole ++ more) else whole ++ more) = p :: t ∧
      isLeafStart p = true := by
  obtain ⟨d, ds, rfl⟩ := List.exists_cons_of_ne_nil hwhole.ne_nil
  have hd : d.isDigit = true := hwhole.digits d List.mem_cons_self
  cases negative with
  | false =>
    refine ⟨_, _, rfl, ?_⟩
    rw [isLeafStart, CodePoint.isDigit_char, hd]
    rfl
  | true => exact ⟨_, _, rfl, by decide⟩

theorem exists_cons_leaf {v : Json} (hleaf : v.isLeaf = true) :
    ∃ p t, v.toText = p :: t ∧ isLeafStart p = true := by
  cases v with
  | null => exact ⟨.char 'n', _, rfl, by decide⟩
  | bool b =>
    cases b with
    | true => exact ⟨.char 't', _, rfl, by decide⟩
    | false => exact ⟨.char 'f', _, rfl, by decide⟩
  | int n =>
    obtain ⟨p, t, heq, hp⟩ :=
      exists_cons_signed (decide (n < 0)) (isWhole_toDigits n.natAbs) []
    rw [List.append_nil, ← ofInt_eq] at heq
    exact ⟨p, t, heq, hp⟩
  | float x =>
    show ∃ p t, floatForm x = p :: t ∧ _
    unfold floatForm
    split
    · exact ⟨.char 'N', _, rfl, by decide⟩
    · split
      · split
        · exact ⟨.char '-', _, rfl, by decide⟩
        · exact ⟨.char 'I', _, rfl, by decide⟩
      · rename_i hnan hinfinite
        obtain ⟨f, hform, hvalid⟩ :=
          Binary64.exists_chars (Bool.eq_false_iff.mpr hnan) (Bool.eq_false_iff.mpr hinfinite)
        rw [Binary64.toText, hform]
        exact exists_cons_signed _ hvalid.whole _
  | text t => exact ⟨.char '"', _, rfl, by decide⟩
  | array _ => exact nomatch hleaf
  | object _ => exact nomatch hleaf

theorem ne_of_isLeafStart {p q : CodePoint} (hp : isLeafStart p = true) (hq : isLeafStart q = false) :
    p ≠ q := by
  rintro rfl
  exact Bool.noConfusion (hp.symm.trans hq)

theorem isSpace_of_isLeafStart {p : CodePoint} (h : isLeafStart p = true) : isSpace p = false := by
  have hblank := ne_of_isLeafStart h (show isLeafStart (.char ' ') = false by decide)
  have htab := ne_of_isLeafStart h (show isLeafStart (.char '\t') = false by decide)
  have hline := ne_of_isLeafStart h (show isLeafStart (.char '\n') = false by decide)
  have hreturn := ne_of_isLeafStart h (show isLeafStart (.char '\r') = false by decide)
  simp [isSpace, hblank, htab, hline, hreturn]

end

/-! ## Forms of documents -/

/-- White space. -/
def IsBlank (t : Text) : Prop := ∀ p ∈ t, isSpace p = true

instance (t : Text) : Decidable (IsBlank t) :=
  inferInstanceAs (Decidable (∀ p ∈ t, isSpace p = true))

theorem isBlank_nil : IsBlank [] := nofun

mutual

/-- The texts that stand for a document, with whatever white space between its parts. -/
inductive Written : Json → Text → Prop where
  | leaf {v : Json} (h : v.isLeaf = true) : Written v v.toText
  | emptyArray {space : Text} (hspace : IsBlank space) :
    Written (array []) (.char '[' :: (space ++ [.char ']']))
  | array {space first rest : Text} {item : Json} {items : List Json} (hspace : IsBlank space)
    (hfirst : Written item first) (hrest : ItemsWritten items rest) :
    Written (array (item :: items)) (.char '[' :: (space ++ (first ++ rest)))
  | emptyObject {space : Text} (hspace : IsBlank space) :
    Written (object []) (.char '{' :: (space ++ [.char '}']))
  | object {space first rest key : Text} {v : Json} {members : List (Text × Json)}
    (hspace : IsBlank space) (hfirst : MemberWritten key v first)
    (hrest : MembersWritten members rest) :
    Written (object ((key, v) :: members)) (.char '{' :: (space ++ (first ++ rest)))

/-- What may follow the first item of an array: the other items, and what closes it. -/
inductive ItemsWritten : List Json → Text → Prop where
  | nil {space : Text} (hspace : IsBlank space) : ItemsWritten [] (space ++ [.char ']'])
  | cons {space space' first rest : Text} {item : Json} {items : List Json} (hspace : IsBlank space)
    (hspace' : IsBlank space') (hfirst : Written item first) (hrest : ItemsWritten items rest) :
    ItemsWritten (item :: items) (space ++ .char ',' :: (space' ++ (first ++ rest)))

inductive MemberWritten : Text → Json → Text → Prop where
  | mk {key space space' t : Text} {v : Json} (hspace : IsBlank space) (hspace' : IsBlank space')
    (hv : Written v t) :
    MemberWritten key v (quoted key ++ (space ++ .char ':' :: (space' ++ t)))

/-- What may follow the first member of an object. -/
inductive MembersWritten : List (Text × Json) → Text → Prop where
  | nil {space : Text} (hspace : IsBlank space) : MembersWritten [] (space ++ [.char '}'])
  | cons {space space' first rest key : Text} {v : Json} {members : List (Text × Json)}
    (hspace : IsBlank space) (hspace' : IsBlank space') (hfirst : MemberWritten key v first)
    (hrest : MembersWritten members rest) :
    MembersWritten ((key, v) :: members) (space ++ .char ',' :: (space' ++ (first ++ rest)))

end

/-! ## What forms begin with -/

section

variable {space t rest : Text} {v : Json}

theorem skipSpace_append (h : IsBlank space) (t : Text) : skipSpace (space ++ t) = skipSpace t :=
  List.dropWhile_append_of_pos h

theorem skipSpace_cons {p : CodePoint} (h : isSpace p = false) (t : Text) :
    skipSpace (p :: t) = p :: t :=
  List.dropWhile_cons_of_neg (by rw [h]; exact Bool.false_ne_true)

/-- A text that begins with neither white space nor what closes a list of items. -/
def Begins (t : Text) : Prop := ∃ p t', t = p :: t' ∧ isSpace p = false ∧ p ≠ .char ']'

theorem begins_of_isLeafStart {p : CodePoint} (h : isLeafStart p = true) (t : Text) : Begins (p :: t) :=
  ⟨p, t, rfl, isSpace_of_isLeafStart h, ne_of_isLeafStart h (by decide)⟩

theorem Begins.skipSpace_append (h : Begins t) (hspace : IsBlank space) (rest : Text) :
    skipSpace (space ++ (t ++ rest)) = t ++ rest := by
  obtain ⟨p, t', rfl, hp, -⟩ := h
  rw [Json.skipSpace_append hspace, List.cons_append, skipSpace_cons hp]

theorem Written.begins (h : Written v t) : Begins t := by
  cases h with
  | leaf hleaf =>
    obtain ⟨p, t', heq, hp⟩ := exists_cons_leaf hleaf
    rw [heq]
    exact begins_of_isLeafStart hp t'
  | emptyArray | array => exact ⟨.char '[', _, rfl, by decide, by decide⟩
  | emptyObject | object => exact ⟨.char '{', _, rfl, by decide, by decide⟩

theorem MemberWritten.exists_quote {key : Text} (h : MemberWritten key v t) :
    ∃ t', t = .char '"' :: t' := by
  cases h with
  | mk hspace hspace' hv => exact ⟨_, rfl⟩

/-! ## What follows -/

/-- What stands behind an item or a member: white space, and then a mark that no number has. -/
def IsFollowed (t : Text) : Prop :=
  ∃ space p rest, IsBlank space ∧ t = space ++ p :: rest ∧
    (p = .char ',' ∨ p = .char ']' ∨ p = .char '}')

theorem endsNumber_cons {p : CodePoint}
    (h : p.isDigit = false ∧ p ≠ .char '.' ∧ p ≠ .char 'e' ∧ p ≠ .char 'E') (rest : Text) :
    EndsNumber (p :: rest) := by
  rintro q hq
  cases hq
  exact h

theorem endsNumber_of_isSpace {p : CodePoint} (h : isSpace p = true) (rest : Text) :
    EndsNumber (p :: rest) := by
  simp only [isSpace, Bool.or_eq_true, decide_eq_true_eq] at h
  obtain ((rfl | rfl) | rfl) | rfl := h
  all_goals exact endsNumber_cons (by decide) rest

theorem IsFollowed.endsNumber (h : IsFollowed t) : EndsNumber t := by
  obtain ⟨space, p, rest, hspace, rfl, hp⟩ := h
  cases space with
  | nil =>
    obtain rfl | rfl | rfl := hp
    all_goals exact endsNumber_cons (by decide) rest
  | cons q space => exact endsNumber_of_isSpace (hspace q List.mem_cons_self) _

theorem ItemsWritten.isFollowed {items : List Json} (h : ItemsWritten items t) (rest : Text) :
    IsFollowed (t ++ rest) := by
  cases h with
  | nil hspace => exact ⟨_, _, rest, hspace, List.append_assoc _ _ _, .inr (.inl rfl)⟩
  | cons hspace => exact ⟨_, _, _, hspace, List.append_assoc _ _ _, .inl rfl⟩

theorem MembersWritten.isFollowed {members : List (Text × Json)} (h : MembersWritten members t)
    (rest : Text) : IsFollowed (t ++ rest) := by
  cases h with
  | nil hspace => exact ⟨_, _, rest, hspace, List.append_assoc _ _ _, .inr (.inr rfl)⟩
  | cons hspace => exact ⟨_, _, _, hspace, List.append_assoc _ _ _, .inl rfl⟩

end

/-! ## Reading forms -/

/-- A first part and the others are read if both bounds allow it. -/
theorem bind_guard {α β γ : Type} {first : Option (α × Text)} {allowed allowed' : Bool} {a : α} {b : β}
    {t rest : Text} (put : α → β → γ) (others : Text → Option (β × Text))
    (hfirst : first = if allowed then some (a, t) else none)
    (hothers : others t = if allowed' then some (b, rest) else none) :
    (do
      let (x, t) ← first
      let (y, rest) ← others t
      return (put x y, rest)) = if allowed && allowed' then some (put a b, rest) else none := by
  subst hfirst
  cases allowed with
  | false => rfl
  | true =>
    show (others t >>= _) = _
    rw [hothers]
    cases allowed' <;> rfl

section

variable {r : Reading}

theorem readValue_leaf {v : Json} (hleaf : v.isLeaf = true) (levels : Nat) (rest : Text) :
    readValue r (levels + 1) (v.toText ++ rest) = readLeaf r (v.toText ++ rest) := by
  obtain ⟨p, t, heq, hp⟩ := exists_cons_leaf hleaf
  have harray := ne_of_isLeafStart hp (show isLeafStart (.char '[') = false by decide)
  have hobject := ne_of_isLeafStart hp (show isLeafStart (.char '{') = false by decide)
  rw [heq, List.cons_append, readValue]
  · exact fun _ heq => absurd (List.cons.inj heq).1 harray
  · exact fun _ heq => absurd (List.cons.inj heq).1 hobject

/-- An array with an item is read from its first item on. -/
theorem readValue_array {space first : Text} (hspace : IsBlank space) (hfirst : Begins first)
    (levels : Nat) (behind : Text) :
    readValue r (levels + 1) (.char '[' :: (space ++ (first ++ behind))) = (do
      let (item, rest) ← readValue r levels (first ++ behind)
      let (items, rest) ← readItems (readValue r levels) (rest.length + 1) rest
      return (array (item :: items), rest)) := by
  have hskip := hfirst.skipSpace_append hspace behind
  obtain ⟨p, t, rfl, -, hp⟩ := hfirst
  rw [readValue, hskip, List.cons_append]
  dsimp only
  split
  · rename_i hclosing
    exact absurd (List.cons.inj hclosing).1 hp
  · rfl

/-- An object with a member is read from the name of its first member on. -/
theorem readValue_object {space : Text} (hspace : IsBlank space) (levels : Nat) (first : Text) :
    readValue r (levels + 1) (.char '{' :: (space ++ .char '"' :: first)) = (do
      let (first, rest) ← readMember r (readValue r levels) (.char '"' :: first)
      let (members, rest) ← readMembers r (readValue r levels) (rest.length + 1) rest
      return (object (r.members (first :: members)), rest)) := by
  rw [readValue, skipSpace_append hspace, skipSpace_cons (by decide)]
  rfl

theorem readItems_cons {space space' first : Text} (hspace : IsBlank space)
    (hspace' : IsBlank space') (hfirst : Begins first)
    (value : Text → Option (Json × Text)) (fuel : Nat) (behind : Text) :
    readItems value (fuel + 1) (space ++ .char ',' :: (space' ++ (first ++ behind))) = (do
      let (item, rest) ← value (first ++ behind)
      let (items, rest) ← readItems value fuel rest
      return (item :: items, rest)) := by
  rw [readItems, skipSpace_append hspace, skipSpace_cons (by decide)]
  show (value (skipSpace (space' ++ (first ++ behind))) >>= _) = _
  rw [hfirst.skipSpace_append hspace']

theorem readMembers_cons {space : Text} (hspace : IsBlank space)
    (value : Text → Option (Json × Text)) (fuel : Nat) (behind : Text) :
    readMembers r value (fuel + 1) (space ++ .char ',' :: behind) = (do
      let (first, rest) ← readMember r value behind
      let (members, rest) ← readMembers r value fuel rest
      return (first :: members, rest)) := by
  rw [readMembers, skipSpace_append hspace, skipSpace_cons (by decide)]
  rfl

/-- A member is read if its name and its value are taken. -/
theorem readMember_of_value {key t : Text} {v : Json} {space space' before rest : Text}
    {allowed : Bool} {value : Text → Option (Json × Text)} (hbefore : IsBlank before)
    (hspace : IsBlank space) (hspace' : IsBlank space') (hv : Written v t)
    (h : value (t ++ rest) = if allowed then some (v.readBack r, rest) else none) :
    readMember r value (before ++ (quoted key ++ (space ++ .char ':' :: (space' ++ t)) ++ rest)) =
      if r.takes key && allowed then some ((joined none key, v.readBack r), rest) else none := by
  have hform : quoted key ++ (space ++ .char ':' :: (space' ++ t)) ++ rest =
      .char '"' :: (key.flatMap codePointForm ++
        .char '"' :: (space ++ .char ':' :: (space' ++ (t ++ rest)))) := by
    rw [quoted]
    simp only [List.cons_append, List.append_assoc, List.nil_append]
  rw [hform, readMember, skipSpace_append hbefore, skipSpace_cons (by decide)]
  show (readText r _ >>= _) = _
  rw [readText_written]
  cases r.takes key with
  | false => rfl
  | true =>
    rw [if_pos rfl, Option.bind_eq_bind, Option.bind_some]
    dsimp only
    rw [skipSpace_append hspace, skipSpace_cons (by decide)]
    show (value (skipSpace (space' ++ (t ++ rest))) >>= _) = _
    rw [hv.begins.skipSpace_append hspace', h]
    cases allowed <;> rfl

end

theorem ItemsWritten.length_lt {items : List Json} {t : Text} (h : ItemsWritten items t)
    (rest : Text) : items.length < (t ++ rest).length + 1 := by
  have hlength : ∀ {items t}, ItemsWritten items t → items.length ≤ t.length := by
    intro items
    induction items with
    | nil => exact fun _ => Nat.zero_le _
    | cons item items ih =>
      intro t h
      cases h with
      | cons hspace hspace' hfirst hrest =>
        have hle := ih hrest
        simp only [List.length_cons, List.length_append]
        omega
  have hle := hlength h
  rw [List.length_append]
  omega

theorem MembersWritten.length_lt {members : List (Text × Json)} {t : Text}
    (h : MembersWritten members t) (rest : Text) : members.length < (t ++ rest).length + 1 := by
  have hlength : ∀ {members t}, MembersWritten members t → members.length ≤ t.length := by
    intro members
    induction members with
    | nil => exact fun _ => Nat.zero_le _
    | cons member members ih =>
      intro t h
      cases h with
      | cons hspace hspace' hfirst hrest =>
        have hle := ih hrest
        simp only [List.length_cons, List.length_append]
        omega
  have hle := hlength h
  rw [List.length_append]
  omega

-- by recursion on the form: its items have one level less, and fuel enough for their number
mutual

/-- Every form of a document is read where the reader's bounds allow it, and not at all elsewhere. -/
theorem Written.readValue {r : Reading} (hr : 17 ≤ r.maxDigits) {v : Json} {t : Text}
    (h : Written v t) (levels : Nat) {rest : Text} (hrest : EndsNumber rest) :
    Json.readValue r levels (t ++ rest) =
      if v.isReadable r levels then some (v.readBack r, rest) else none := by
  cases levels with
  | zero =>
    rw [isReadable_zero]
    rfl
  | succ levels =>
    match h with
    | .leaf hleaf => rw [readValue_leaf hleaf, readLeaf_toText hleaf levels hr hrest]
    | .emptyArray hspace =>
      rw [List.cons_append, List.append_assoc, Json.readValue, skipSpace_append hspace]
      rfl
    | .emptyObject hspace =>
      have hback : (object []).readBack r = object [] := congrArg object r.members_nil
      rw [List.cons_append, List.append_assoc, Json.readValue, skipSpace_append hspace, hback]
      rfl
    | .array hspace hfirst hothers =>
      have hitem := hfirst.readValue hr levels (hothers.isFollowed rest).endsNumber
      have hitems := hothers.readItems hr levels rest _ (hothers.length_lt rest)
      rw [List.cons_append, List.append_assoc, List.append_assoc, readValue_array hspace hfirst.begins]
      exact bind_guard (fun item items => array (item :: items))
        (fun rest => Json.readItems (Json.readValue r levels) (rest.length + 1) rest) hitem hitems
    | .object hspace hfirst hothers =>
      have hmember := hfirst.readMember hr levels isBlank_nil (hothers.isFollowed rest).endsNumber
      have hmembers := hothers.readMembers hr levels rest _ (hothers.length_lt rest)
      obtain ⟨t, rfl⟩ := hfirst.exists_quote
      rw [List.cons_append, List.append_assoc, List.append_assoc, List.cons_append,
        readValue_object hspace]
      exact bind_guard (fun first members => object (r.members (first :: members)))
        (fun rest => Json.readMembers r (Json.readValue r levels) (rest.length + 1) rest) hmember
        hmembers

theorem ItemsWritten.readItems {r : Reading} (hr : 17 ≤ r.maxDigits) {items : List Json} {t : Text}
    (h : ItemsWritten items t) (levels : Nat) (rest : Text) (fuel : Nat)
    (hfuel : items.length < fuel) :
    Json.readItems (Json.readValue r levels) fuel (t ++ rest) =
      if itemsReadable r levels items then some (itemsBack r items, rest) else none := by
  obtain ⟨fuel, rfl⟩ := Nat.exists_eq_succ_of_ne_zero (Nat.ne_zero_of_lt hfuel)
  match h with
  | .nil hspace =>
    rw [List.append_assoc, Json.readItems, skipSpace_append hspace]
    rfl
  | .cons hspace hspace' hfirst hothers =>
    have hitem := hfirst.readValue hr levels (hothers.isFollowed rest).endsNumber
    have hitems := hothers.readItems hr levels rest fuel (Nat.lt_of_succ_lt_succ hfuel)
    rw [List.append_assoc, List.cons_append, List.append_assoc, List.append_assoc,
      readItems_cons hspace hspace' hfirst.begins]
    exact bind_guard List.cons _ hitem hitems

theorem MemberWritten.readMember {r : Reading} (hr : 17 ≤ r.maxDigits) {key : Text} {v : Json}
    {t : Text} (h : MemberWritten key v t) (levels : Nat) {before rest : Text}
    (hbefore : IsBlank before) (hrest : EndsNumber rest) :
    Json.readMember r (Json.readValue r levels) (before ++ (t ++ rest)) =
      if r.takes key && v.isReadable r levels then some ((joined none key, v.readBack r), rest)
      else none := by
  match h with
  | .mk hspace hspace' hv =>
    exact readMember_of_value hbefore hspace hspace' hv (hv.readValue hr levels hrest)

theorem MembersWritten.readMembers {r : Reading} (hr : 17 ≤ r.maxDigits)
    {members : List (Text × Json)} {t : Text} (h : MembersWritten members t) (levels : Nat)
    (rest : Text) (fuel : Nat) (hfuel : members.length < fuel) :
    Json.readMembers r (Json.readValue r levels) fuel (t ++ rest) =
      if membersReadable r levels members then some (membersBack r members, rest) else none := by
  obtain ⟨fuel, rfl⟩ := Nat.exists_eq_succ_of_ne_zero (Nat.ne_zero_of_lt hfuel)
  match h with
  | .nil hspace =>
    rw [List.append_assoc, Json.readMembers, skipSpace_append hspace]
    rfl
  | .cons hspace hspace' hfirst hothers =>
    have hmember := hfirst.readMember hr levels hspace' (hothers.isFollowed rest).endsNumber
    have hmembers := hothers.readMembers hr levels rest fuel (Nat.lt_of_succ_lt_succ hfuel)
    rw [List.append_assoc, List.cons_append, List.append_assoc, List.append_assoc,
      readMembers_cons hspace]
    exact bind_guard List.cons _ hmember hmembers

end

theorem IsBlank.endsNumber {t : Text} (h : IsBlank t) : EndsNumber t := by
  cases t with
  | nil => exact nofun
  | cons p t => exact endsNumber_of_isSpace (h p List.mem_cons_self) t

theorem IsBlank.skipSpace_eq_nil {t : Text} (h : IsBlank t) : skipSpace t = [] := by
  have happend := skipSpace_append h []
  rw [List.append_nil] at happend
  exact happend

/-- A whole document is read with white space around it. -/
theorem read_written {r : Reading} (hr : 17 ≤ r.maxDigits) {v : Json} {t space space' : Text}
    (h : Written v t) (hspace : IsBlank space) (hspace' : IsBlank space') (levels : Nat) :
    read r levels (space ++ (t ++ space')) =
      if v.isReadable r levels then some (v.readBack r) else none := by
  rw [read, h.begins.skipSpace_append hspace, h.readValue hr levels hspace'.endsNumber]
  cases v.isReadable r levels with
  | false => rfl
  | true =>
    show (if (skipSpace space').isEmpty then _ else _) = _
    rw [hspace'.skipSpace_eq_nil]
    rfl

end Json

end ImageDiscovery
