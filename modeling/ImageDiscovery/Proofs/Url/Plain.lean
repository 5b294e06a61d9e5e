import ImageDiscovery.Proofs.Url.Replaced

/-!
# Plain URLs — what is read as it is written

Points that may stand in every part of a URL are changed nowhere but in letters of upper case.  So a host
of other such points is read as it is written, and so is a path of one segment of them.
-/

namespace ImageDiscovery

theorem Text.isWithin_append (needle before after : Text) :
    isWithin needle (before ++ needle ++ after) = true := by
  induction before with
  | nil =>
    rw [List.nil_append]
    cases needle with
    | nil => cases after <;> rfl
    | cons p needle =>
      have hstart : (p :: needle).isPrefixOf (p :: needle ++ after) = true :=
        List.isPrefixOf_iff_prefix.mpr (List.prefix_append _ _)
      exact Bool.or_eq_true_iff.mpr (.inl hstart)
  | cons q before ih => exact Bool.or_eq_true_iff.mpr (.inr ih)

namespace Url

variable {t : Text} {u v w : Url}

/-! ## Texts without control points -/

theorem findControl_eq_none_iff : findControl t = none ↔ ∀ p ∈ t, isControl p = false := by
  have hsplit := List.takeWhile_append_dropWhile (p := fun p => !isControl p) (l := t)
  unfold findControl
  split
  · rename_i hnone
    rw [hnone, List.append_nil] at hsplit
    have hall := List.all_takeWhile (p := fun p => !isControl p) (l := t)
    rw [hsplit, List.all_eq_true] at hall
    simpa using hall
  · rename_i p rest hsome
    have hcontrol := List.head?_dropWhile_not (fun p => !isControl p) t
    rw [hsome] at hcontrol hsplit
    simp only [reduceCtorEq, false_iff]
    intro h
    have hp := h p (by rw [← hsplit]; simp)
    simp [hp] at hcontrol

theorem not_isControl_of_parse (h : parse t = .ok u) : ∀ p ∈ t, isControl p = false := by
  unfold parse at h
  split at h
  · exact nomatch h
  · split at h
    · exact nomatch h
    · rename_i hnone
      exact findControl_eq_none_iff.mp hnone

theorem parse_eq_ofParts (hlength : t.length ≤ maxLength) (hcontrol : ∀ p ∈ t, isControl p = false) :
    parse t = ofParts (Parts.ofText t) (Authority.ofText (Parts.ofText t).authority) := by
  rw [parse, if_neg (by omega), findControl_eq_none_iff.mpr hcontrol]

/-! ## Plain hosts -/

theorem IsPlain.host_eq {host : Text} (h : IsPlain t) (hhost : encodeHost t = .ok host) :
    host = t := by
  cases hostForm_of_encodeHost hhost with
  | empty hnil heq => rw [heq, hnil]
  | ipv4 _ heq => exact heq
  | ipv6 _ heq =>
    refine absurd ?_ (h.not_mem (p := .char '[') (by decide))
    rw [heq]
    exact List.mem_cons_self
  | ascii _ heq =>
    rw [heq, Text.asciiLower_eq_self fun p hp => (h p hp).2, h.encode_eq]
  | idna hascii _ _ =>
    rw [h.isAscii] at hascii
    exact nomatch hascii

/-- A plain authority is a host. -/
theorem IsPlain.ofText_eq (h : IsPlain t) : Authority.ofText t = ⟨[], t, []⟩ := by
  have hopening : t.head? ≠ some (.char '[') := fun hhead =>
    h.not_mem (by decide) (List.mem_of_mem_head? hhead)
  have hcolon : ∀ p ∈ t, isColon p = false := fun p hp =>
    decide_eq_false fun e => h.not_mem (p := .char ':') (by decide) (e ▸ hp)
  unfold Authority.ofText
  rw [cutLast_of_not_mem (h.not_mem (by decide))]
  simp [hopening, upTo_eq_self hcolon]

/-! ## Plain paths -/

/-- Without dots for segments, there is nothing to remove. -/
theorem removeDots_eq_self {path : Text}
    (h : ∀ segment ∈ path.split (.char '/'), segment ≠ "." ∧ segment ≠ "..") :
    removeDots path = path := by
  have hfold : ∀ (segments before : List Text), (∀ s ∈ segments, s ≠ "." ∧ s ≠ "..") →
      segments.foldl dotStep before = segments.reverse ++ before := by
    intro segments
    induction segments with
    | nil => exact fun before _ => rfl
    | cons s segments ih =>
      intro before hall
      rw [List.forall_mem_cons] at hall
      rw [List.foldl_cons, dotStep, if_neg hall.1.1, if_neg hall.1.2, ih _ hall.2, List.reverse_cons,
        List.append_assoc]
      rfl
  rw [removeDots, hfold _ _ h, List.append_nil, List.reverse_reverse]
  exact Text.join_split _ _

theorem removeDots_of_segment {segment : Text} (hslash : CodePoint.char '/' ∉ segment)
    (hdots : segment ≠ "." ∧ segment ≠ "..") :
    removeDots (.char '/' :: segment) = .char '/' :: segment := by
  apply removeDots_eq_self
  rw [Text.split_cons_self, Text.split_of_not_mem hslash, List.forall_mem_cons,
    List.forall_mem_singleton]
  exact ⟨by decide, hdots⟩

variable {scheme server segment host : Text} {port : Option Int}

/-- A text of a scheme, a server and a plain segment comes apart into these. -/
theorem IsPlain.ofText_rooted (h : IsPlain segment) (hs : IsScheme scheme)
    (hserver : ∀ p ∈ server, endsServer p = false) :
    Parts.ofText (scheme ++ .char ':' :: .char '/' :: .char '/' ::
      (server ++ .char '/' :: segment)) = ⟨scheme, server, .char '/' :: segment, none, none⟩ := by
  have hpath : ∀ p ∈ CodePoint.char '/' :: segment, endsPath p = false := by
    rw [List.forall_mem_cons]
    exact ⟨by decide, not_endsPath (h.not_mem (by decide)) (h.not_mem (by decide))⟩
  have hstop : ∀ p ∈ (CodePoint.char '/' :: segment).head?, endsServer p = true := by
    intro p hp
    rw [← Option.some.inj hp]
    rfl
  rw [ofText_of_server (hs.cutScheme_append _)]
  simp only [upTo_append hserver hstop, upTo_eq_self hpath]
  rfl

theorem IsPlain.ofParts_rooted (h : IsPlain segment) (hdots : segment ≠ "." ∧ segment ≠ "..")
    (hs : IsScheme scheme) {authority : Authority} (hhost : encodeHost authority.host = .ok host)
    (hport : readPort scheme authority.port = .ok port) :
    ofParts ⟨scheme, server, .char '/' :: segment, none, none⟩ authority =
      .ok ⟨scheme, Percent.encode Percent.inUserinfo authority.userinfo, host, port,
        .char '/' :: segment, none, none⟩ := by
  have hcheck : ∀ hasAuthority,
      checkPath (.char '/' :: segment) (!scheme.isEmpty) hasAuthority = none := by
    intro hasAuthority
    cases hasAuthority <;> simp [checkPath, hs.ne_nil]
  have hpath : Percent.encode Percent.inPath (.char '/' :: segment) = .char '/' :: segment :=
    congrArg (CodePoint.char '/' :: ·) (h.encode_eq Percent.inPath)
  have hscheme : (!scheme.isEmpty) = true := by simpa using hs.ne_nil
  unfold ofParts
  rw [hhost]
  show (readPort scheme authority.port >>= _) = _
  rw [hport]
  dsimp only [bind, Except.bind]
  rw [hs.lower, hcheck, hscheme, Bool.true_or, if_pos rfl,
    removeDots_of_segment (h.not_mem (by decide)) hdots, hpath]
  rfl

end Url

end ImageDiscovery
