import ImageDiscovery.Proofs.Url.Numeric
import ImageDiscovery.Proofs.Url.Plain

/-!
# Settled — parts that stay as they are when they are read again

A percent sign may stand in every part of a URL, so what is written in escapes is not written in escapes
again, and a path without dots has none afterwards.  What is read of the parts of a URL is what they
were, but for one thing: a host comes in lower case before its points are escaped, so the digits of
its escapes are letters of upper case, and these are lower-cased by the next reading.
-/

namespace ImageDiscovery

namespace Percent

variable {allowed : CodePoint → Bool}

/-- Escapes are the only change. -/
theorem eq_of_not_mem_encode {t : Text} (h : CodePoint.char '%' ∉ encode allowed t) :
    encode allowed t = t := by
  apply encode_eq_self
  intro p hp
  apply Decidable.byContradiction
  intro hescaped
  -- a point that may not stand here is written as a byte at least
  have hbytes : Utf8.encodeNat p.toNat ≠ [] := by
    unfold Utf8.encodeNat
    repeat' split
    all_goals exact List.cons_ne_nil _ _
  rcases List.exists_cons_of_ne_nil hbytes with ⟨b, bytes, hbytes⟩
  have hpoint : CodePoint.char '%' ∈ encodePoint allowed p := by
    rw [encodePoint, if_neg hescaped, hbytes, List.flatMap_cons]
    exact List.mem_append_left _ List.mem_cons_self
  exact h (List.mem_flatMap.mpr ⟨p, hp, hpoint⟩)

/-- What is written in escapes is not escaped again. -/
theorem encode_encode (h : allowed (.char '%') = true) (t : Text) :
    encode allowed (encode allowed t) = encode allowed t := by
  apply encode_eq_self
  intro p hp
  rw [Bool.or_eq_true]
  rcases of_mem_encode hp with rfl | hp | hp
  · exact .inr h
  · exact .inl hp
  · exact .inr hp

/-- A mark that may stand in a part is in its form only if it is in the part. -/
theorem mem_of_mem_encode {t : Text} {p : CodePoint} (hp : p ≠ .char '%' ∧ isUnreserved p = false)
    (h : p ∈ encode allowed t) : p ∈ t := by
  rcases List.mem_flatMap.mp h with ⟨q, hq, hmem⟩
  unfold encodePoint at hmem
  split at hmem
  · rw [List.mem_singleton.mp hmem]
    exact hq
  · rcases List.mem_flatMap.mp hmem with ⟨b, -, hmem⟩
    have hform := of_mem_encodeByte hmem
    simp [hp] at hform

theorem encode_join {sep : CodePoint} (h : allowed sep = true) (parts : List Text) :
    encode allowed (Text.join [sep] parts) = Text.join [sep] (parts.map (encode allowed)) := by
  have hsep : encode allowed [sep] = [sep] :=
    encode_eq_self fun p hp => by rw [List.mem_singleton.mp hp, h, Bool.or_true]
  induction parts with
  | nil => rfl
  | cons part parts ih =>
    by_cases hnil : parts = []
    · rw [hnil]
      rfl
    · rw [Text.join_cons _ _ hnil, List.map_cons, Text.join_cons _ _ (by simpa using hnil), ← ih]
      simp only [encode, List.flatMap_append]
      exact congrArg (fun form => part.flatMap (encodePoint allowed) ++ form ++ _) hsep

/-- The segments of an escaped text are the escaped segments of the text. -/
theorem split_encode {sep : CodePoint} (h : allowed sep = true)
    (hsep : sep ≠ .char '%' ∧ isUnreserved sep = false) (t : Text) :
    (encode allowed t).split sep = (t.split sep).map (encode allowed) := by
  have hform : encode allowed t = Text.join [sep] ((t.split sep).map (encode allowed)) := by
    rw [← encode_join h, Text.join_split]
  rw [hform]
  apply Text.split_join
  · simpa using Text.split_ne_nil sep t
  · intro part hpart
    rcases List.mem_map.mp hpart with ⟨segment, hsegment, rfl⟩
    intro hmem
    exact Text.not_mem_of_mem_split hsegment (mem_of_mem_encode hsep hmem)

end Percent

namespace Url

/-! ## Paths -/

/-- A segment of a path that is no dot. -/
structure IsSegment (t : Text) : Prop where
  slash : CodePoint.char '/' ∉ t
  dot : t ≠ "."
  dots : t ≠ ".."

theorem isSegment_dotStep {before : List Text} (h : ∀ s ∈ before, IsSegment s) {segment : Text}
    (hslash : CodePoint.char '/' ∉ segment) : ∀ s ∈ dotStep before segment, IsSegment s := by
  unfold dotStep
  split
  · exact h
  · rename_i hdot
    split
    · split
      · exact h
      · exact fun s hs => h s (List.mem_of_mem_drop hs)
    · rename_i hdots
      rw [List.forall_mem_cons]
      exact ⟨⟨hslash, hdot, hdots⟩, h⟩

theorem isSegment_of_mem_removeDots (path : Text) :
    ∀ s ∈ (removeDots path).split (.char '/'), IsSegment s := by
  have hfold : ∀ (segments before : List Text), (∀ s ∈ segments, CodePoint.char '/' ∉ s) →
      (∀ s ∈ before, IsSegment s) → ∀ s ∈ segments.foldl dotStep before, IsSegment s := by
    intro segments
    induction segments with
    | nil => exact fun before _ h => h
    | cons segment segments ih =>
      intro before hslash h
      rw [List.forall_mem_cons] at hslash
      exact ih _ hslash.2 (isSegment_dotStep h hslash.1)
  have hsegments := hfold (path.split (.char '/')) []
    (fun s hs => Text.not_mem_of_mem_split hs) (fun s hs => absurd hs List.not_mem_nil)
  rw [removeDots]
  by_cases hnil : ((path.split (.char '/')).foldl dotStep []).reverse = []
  · rw [hnil]
    intro s hs
    obtain rfl : s = [] := List.mem_singleton.mp hs
    exact ⟨List.not_mem_nil, by decide, by decide⟩
  · show ∀ s ∈ (Text.join [.char '/'] _).split (.char '/'), _
    rw [Text.split_join hnil fun s hs => (hsegments s (List.mem_reverse.mp hs)).slash]
    exact fun s hs => hsegments s (List.mem_reverse.mp hs)

/-- The form that a path has in a URL with a scheme. -/
def settledPath (path : Text) : Text := Percent.encode Percent.inPath (removeDots path)

/-- A path that was brought to its form stays. -/
theorem settledPath_settledPath (path : Text) : settledPath (settledPath path) = settledPath path := by
  have hdots : removeDots (settledPath path) = settledPath path := by
    apply removeDots_eq_self
    intro segment hsegment
    rw [settledPath, Percent.split_encode (by decide) (by decide)] at hsegment
    rcases List.mem_map.mp hsegment with ⟨s, hs, rfl⟩
    have hnone := isSegment_of_mem_removeDots path s hs
    -- a dot has no escapes in it, so it would be a dot before
    constructor
    · intro heq
      apply hnone.dot
      rw [← heq, Percent.eq_of_not_mem_encode]
      rw [heq]
      decide
    · intro heq
      apply hnone.dots
      rw [← heq, Percent.eq_of_not_mem_encode]
      rw [heq]
      decide
  rw [settledPath, hdots]
  exact Percent.encode_encode (by decide) _

/-! ## Ports -/

variable {s : Text} {port : Option Int}

theorem toInt?_of_readPort {written : Text} (h : readPort s written = .ok port) :
    ∀ n ∈ port, (Text.ofInt n).toInt? = some n := by
  unfold readPort at h
  split at h
  · cases h
    exact nofun
  · split at h
    · exact nomatch h
    · rename_i m hm
      have hport := Except.ok.inj h
      intro n hn
      rw [← hport] at hn
      split at hn
      · exact nomatch hn
      · rw [← Option.some.inj hn]
        exact Text.toInt?_ofInt_of_toInt? hm

/-- A port is read as it is written, unless it is that of the scheme. -/
theorem readPort_portDigits (h : ∀ n ∈ port, (Text.ofInt n).toInt? = some n) :
    readPort s (portDigits port) = .ok (if port = defaultPort? s then none else port) := by
  cases port with
  | none =>
    rw [ite_self]
    rfl
  | some n =>
    have hread := h n rfl
    have hne : (Text.ofInt n).isEmpty = false := by
      rw [List.isEmpty_eq_false_iff]
      intro hnil
      rw [hnil] at hread
      exact nomatch hread
    have hdigits : portDigits (some n) = Text.ofInt n := rfl
    rw [readPort, hdigits, hne, hread]
    show Except.ok (if defaultPort? s = some n then none else some n) = _
    by_cases hdefault : defaultPort? s = some n
    · rw [if_pos hdefault, if_pos hdefault.symm]
    · rw [if_neg hdefault, if_neg (Ne.symm hdefault)]

/-! ## Hosts -/

theorem looksNumeric_inBrackets (host : Text) : Address.looksNumeric (inBrackets host) = false := by
  rw [Bool.eq_false_iff]
  intro hnumeric
  have hdotted := Address.looksNumeric_iff.mp hnumeric
  have hbracket : CodePoint.char '[' ∈ inBrackets host := List.mem_cons_self
  exact absurd (hdotted.of_mem hbracket) (by decide)

theorem encodeHost_inBrackets {host : Text} (h : Address.isIpv6 host = true) :
    encodeHost (inBrackets host) = .ok host := by
  have hfirst : (inBrackets host).head? = some (.char '[') := rfl
  have hlast : (inBrackets host).getLast? = some (.char ']') := by
    rw [inBrackets, ← List.cons_append, List.getLast?_concat]
  have hinner : (inBrackets host).tail.dropLast = host := List.dropLast_concat
  have hnumeric : ¬ Address.looksNumeric (inBrackets host) = true := by
    rw [looksNumeric_inBrackets]
    exact Bool.false_ne_true
  have hne : ¬ (inBrackets host).isEmpty = true := Bool.false_ne_true
  rw [encodeHost, if_neg hne, if_neg hnumeric, hfirst, hlast]
  simp only [decide_true, Bool.and_self, ↓reduceIte, hinner, h]

/-- Points that may stand in hosts may so in lower case. -/
theorem inHost_asciiLower {p : CodePoint} (h : Percent.inHost p = true) :
    Percent.inHost p.asciiLower = true := by
  rcases p.asciiLower_eq_or_isLetter with hsame | hletter
  · rw [hsame]
    exact h
  · rw [Percent.inHost, Percent.isUnreserved, hletter]
    rfl

theorem inHost_of_mem_encode {t : Text} {p : CodePoint} (h : p ∈ Percent.encode Percent.inHost t) :
    Percent.inHost p = true := by
  rcases Percent.of_mem_encode h with rfl | h | h
  · decide
  · rw [Percent.inHost, h, Bool.true_or]
  · exact h

/-- A host that is written in ASCII, read again: only letters of its escapes are changed. -/
theorem encode_asciiLower_encode (written : Text) :
    let host := Percent.encode Percent.inHost written.asciiLower
    Percent.encode Percent.inHost host.asciiLower = host ∨
      .char '%' ∈ host ∧ Percent.encode Percent.inHost host.asciiLower = host.asciiLower := by
  intro host
  have hlower : Percent.encode Percent.inHost host.asciiLower = host.asciiLower := by
    apply Percent.encode_eq_self
    intro p hp
    rcases List.mem_map.mp hp with ⟨q, hq, rfl⟩
    rw [inHost_asciiLower (inHost_of_mem_encode hq), Bool.or_true]
  by_cases hpercent : CodePoint.char '%' ∈ host
  · exact .inr ⟨hpercent, hlower⟩
  · have hsame : host = written.asciiLower := Percent.eq_of_not_mem_encode hpercent
    left
    rw [hlower, hsame, Text.asciiLower_asciiLower]

/-- What is read of a host that was read before. -/
theorem eq_of_encodeHost_hostText {written host again : Text} (h : encodeHost written = .ok host)
    (hagain : encodeHost (hostText host) = .ok again) :
    again = host ∨ .char '%' ∈ host ∧ again = host.asciiLower := by
  have hplain : IsPlain host → again = host := by
    intro hplain
    rw [hostText_of_not_mem (hplain.not_mem (by decide))] at hagain
    exact hplain.host_eq hagain
  cases hostForm_of_encodeHost h with
  | empty _ heq =>
    rw [heq] at hagain
    rw [heq]
    exact .inl (Except.ok.inj hagain).symm
  | ipv4 h heq => exact .inl (hplain (heq ▸ isPlain_of_isIpv4 h))
  | idna _ _ heq => exact .inl (hplain (isPlain_toAscii heq))
  | ipv6 h heq =>
    rw [hostText_of_mem (Address.colon_mem_of_isIpv6 h), encodeHost_inBrackets h] at hagain
    exact .inl (Except.ok.inj hagain).symm
  | ascii _ heq =>
    have hcolon : CodePoint.char ':' ∉ host := heq ▸ Percent.not_mem_encode (by decide) _
    rw [hostText_of_not_mem hcolon] at hagain
    cases hostForm_of_encodeHost hagain with
    | empty hnil hnil' => exact .inl (hnil'.trans hnil.symm)
    | ipv4 _ heq' => exact .inl heq'
    | ipv6 _ hbrackets =>
      have hmem : CodePoint.char '[' ∈ host := hbrackets ▸ List.mem_cons_self
      rw [heq] at hmem
      exact absurd hmem (Percent.not_mem_encode (by decide) _)
    | ascii _ heq' =>
      rw [heq', heq]
      exact encode_asciiLower_encode written
    | idna hascii _ _ =>
      have hall := Percent.isAscii_encode (fun p => Percent.isAscii_of_inHost) written.asciiLower
      rw [← heq, hascii] at hall
      exact nomatch hall

/-! ## URLs -/

/-- The parts of a URL are in the forms that they are brought to. -/
structure IsSettled (u : Url) : Prop where
  userinfo : Percent.encode Percent.inUserinfo u.userinfo = u.userinfo
  host : ∀ again, encodeHost (hostText u.host) = .ok again →
    again = u.host ∨ .char '%' ∈ u.host ∧ again = u.host.asciiLower
  port : ∀ n ∈ u.port, (Text.ofInt n).toInt? = some n
  path : u.scheme ≠ [] → settledPath u.path = u.path
  query : u.query.map (Percent.encode Percent.inQuery) = u.query
  fragment : u.fragment.map (Percent.encode Percent.inFragment) = u.fragment

theorem isSettled_of_isMade {parts : Parts} {authority : Authority} {u : Url}
    (h : IsMade parts authority u) : u.IsSettled := by
  constructor
  case userinfo =>
    rw [h.userinfo]
    exact Percent.encode_encode (by decide) _
  case host => exact fun again hagain => eq_of_encodeHost_hostText h.host hagain
  case port => exact toInt?_of_readPort h.port
  case path =>
    intro hs
    rw [h.path hs]
    exact settledPath_settledPath _
  case query =>
    rw [h.query, Option.map_map]
    congr 1
    exact funext (Percent.encode_encode (by decide))
  case fragment =>
    rw [h.fragment, Option.map_map]
    congr 1
    exact funext (Percent.encode_encode (by decide))

end Url

end ImageDiscovery
