import ImageDiscovery.HostHeaders
import ImageDiscovery.Proofs.Mapping
import ImageDiscovery.Proofs.Text.Trim

/-!
# Options — the headers that a user gives for hosts

An option `host=Name: value` ends its host at the first equal sign and its name at the first colon behind
that, and whatever is in the value stays in it.  Options are read up to the first bad one.  If none is
bad, each host has its place where it came first, each name has its place where it came first for that
host, and a name has the value that came last for it.
-/

namespace ImageDiscovery

namespace HostHeaders

/-! ## One option -/

/-- An option cut at its first equal sign and at the first colon behind that. -/
structure IsCut (option host name value : Text) : Prop where
  option_eq : option = host ++ .char '=' :: (name ++ .char ':' :: value)
  host_ok : .char '=' ∉ host
  name_ok : .char ':' ∉ name

/-- What is wrong with an option. -/
inductive IsBad (option : Text) : Prop where
  | noHost (hequal : .char '=' ∉ option)
  | noName {host header : Text} (hoption : option = host ++ .char '=' :: header)
    (hhost : .char '=' ∉ host) (hcolon : .char ':' ∉ header)
  | blankHost {host header : Text} (hoption : option = host ++ .char '=' :: header)
    (hhost : .char '=' ∉ host) (hblank : host.IsBlank)
  | blankName {host name value : Text} (hcut : IsCut option host name value) (hblank : name.IsBlank)

/-- The entry of an option.  All that stands behind the colon is its value, with the signs in it. -/
inductive IsEntry (option : Text) (entry : Entry) : Prop where
  | cut {host name value : Text} (hcut : IsCut option host name value)
    (hhost : Text.IsTrimmed host entry.host) (hname : Text.IsTrimmed name entry.name)
    (hvalue : Text.IsTrimmed value entry.value)
    (hsigns : ∀ sign ∈ [CodePoint.char '=', .char ':'], entry.value.count sign = value.count sign)

theorem ofText?_of_isCut {option host name value : Text} (h : IsCut option host name value) :
    Entry.ofText? option =
      if host.trim.isEmpty || name.trim.isEmpty then none
      else some ⟨host.trim, name.trim, value.trim⟩ := by
  rw [Entry.ofText?, h.option_eq, Text.cut_append h.host_ok]
  simp only [Text.cut_append h.name_ok]

theorem ofText?_of_isBad {option : Text} (h : IsBad option) : Entry.ofText? option = none := by
  cases h with
  | noHost hequal => rw [Entry.ofText?, Text.cut_of_not_mem hequal]
  | noName hoption hhost hcolon =>
    rw [Entry.ofText?, hoption, Text.cut_append hhost]
    simp only [Text.cut_of_not_mem hcolon]
  | @blankHost host header hoption hhost hblank =>
    rw [Entry.ofText?, hoption, Text.cut_append hhost]
    simp only [Text.trim_eq_nil_iff.mpr hblank]
    -- with a colon or without one
    cases Text.cut (.char ':') header with
    | mk name value => cases value <;> rfl
  | blankName hcut hblank =>
    rw [ofText?_of_isCut hcut, Text.trim_eq_nil_iff.mpr hblank]
    simp

/-- An option that can be cut and has neither a blank host nor a blank name has an entry. -/
theorem isBad_or_isEntry_of_isCut {option host name value : Text}
    (h : IsCut option host name value) :
    IsBad option ∨ ∃ entry, IsEntry option entry ∧ Entry.ofText? option = some entry := by
  have hread := ofText?_of_isCut h
  split at hread
  · rename_i hempty
    rw [Bool.or_eq_true, List.isEmpty_iff, List.isEmpty_iff, Text.trim_eq_nil_iff,
      Text.trim_eq_nil_iff] at hempty
    cases hempty with
    | inl hblank => exact .inl (.blankHost h.option_eq h.host_ok hblank)
    | inr hblank => exact .inl (.blankName h hblank)
  · have hvalue := Text.isTrimmed_trim value
    refine .inr ⟨_, .cut h (Text.isTrimmed_trim host) (Text.isTrimmed_trim name) hvalue ?_, hread⟩
    intro sign hsign
    have hblank : ∀ sign ∈ [CodePoint.char '=', .char ':'], sign.isBlank = false := by decide
    exact hvalue.count_eq (hblank sign hsign)

theorem isBad_or_isEntry (option : Text) :
    IsBad option ∨ ∃ entry, IsEntry option entry ∧ Entry.ofText? option = some entry := by
  cases hequal : option.cut (.char '=') with
  | mk host header =>
    cases header with
    | none =>
      have ⟨hhost, hnot⟩ := Text.cut_eq_none hequal
      exact .inl (.noHost (hhost ▸ hnot))
    | some header =>
      have ⟨hoption, hhost⟩ := Text.cut_eq_some hequal
      cases hcolon : Text.cut (.char ':') header with
      | mk name value =>
        cases value with
        | none =>
          have ⟨hname, hnot⟩ := Text.cut_eq_none hcolon
          exact .inl (.noName hoption hhost (hname ▸ hnot))
        | some value =>
          have ⟨hheader, hname⟩ := Text.cut_eq_some hcolon
          exact isBad_or_isEntry_of_isCut ⟨by rw [hoption, hheader], hhost, hname⟩

/-! ## Options one after another -/

/-- The first bad option, with none in front of it. -/
def IsFirstBad (options : List Text) (option : Text) : Prop :=
  ∃ before after, options = before ++ option :: after ∧ IsBad option ∧ ∀ other ∈ before, ¬ IsBad other

theorem ofOptions_cons_of_isBad (headers : HostHeaders) {option : Text} (h : IsBad option)
    (options : List Text) : ofOptions headers (option :: options) = .error option := by
  rw [ofOptions, ofText?_of_isBad h]

/-- An option that is not bad adds its entry. -/
theorem ofOptions_cons_of_not_isBad (headers : HostHeaders) {option : Text} (h : ¬ IsBad option)
    (options : List Text) :
    ∃ entry, IsEntry option entry ∧
      ofOptions headers (option :: options) = ofOptions (headers.add entry) options := by
  have ⟨entry, hentry, hread⟩ := (isBad_or_isEntry option).resolve_left h
  refine ⟨entry, hentry, ?_⟩
  rw [ofOptions, hread]

theorem ofOptions_of_isFirstBad (headers : HostHeaders) {options : List Text} {option : Text}
    (h : IsFirstBad options option) : ofOptions headers options = .error option := by
  have ⟨before, after, hoptions, hbad, hbefore⟩ := h
  rw [hoptions]
  -- whatever the options in front of it have added
  clear hoptions h
  induction before generalizing headers with
  | nil => exact ofOptions_cons_of_isBad headers hbad after
  | cons other before ih =>
    rw [List.forall_mem_cons] at hbefore
    have ⟨entry, _, hstep⟩ := ofOptions_cons_of_not_isBad headers hbefore.1 (before ++ option :: after)
    rw [List.cons_append, hstep]
    exact ih _ hbefore.2

theorem ofOptions_of_not_isBad (headers : HostHeaders) {options : List Text}
    (h : ∀ option ∈ options, ¬ IsBad option) :
    ∃ entries, List.Forall₂ IsEntry options entries ∧
      ofOptions headers options = .ok (entries.foldl add headers) := by
  induction options generalizing headers with
  | nil => exact ⟨[], .nil, rfl⟩
  | cons option options ih =>
    rw [List.forall_mem_cons] at h
    have ⟨entry, hentry, hstep⟩ := ofOptions_cons_of_not_isBad headers h.1 options
    have ⟨entries, hentries, hread⟩ := ih (headers.add entry) h.2
    exact ⟨entry :: entries, .cons hentry hentries, hstep.trans hread⟩

theorem exists_isFirstBad {options : List Text} {option : Text} (hmem : option ∈ options)
    (hbad : IsBad option) : ∃ first, IsFirstBad options first := by
  induction options with
  | nil => exact nomatch hmem
  | cons other options ih =>
    by_cases hother : IsBad other
    · exact ⟨other, [], options, rfl, hother, nofun⟩
    · -- the first bad one of the rest, with one more in front of it
      have hne : option ≠ other := fun e => hother (e ▸ hbad)
      have ⟨first, before, after, hoptions, hfirst, hbefore⟩ :=
        ih ((List.mem_cons.mp hmem).resolve_left hne)
      refine ⟨first, other :: before, after, by rw [hoptions]; rfl, hfirst, ?_⟩
      exact List.forall_mem_cons.mpr ⟨hother, hbefore⟩

theorem isFirstBad_of_ofOptions {headers : HostHeaders} {options : List Text} {option : Text}
    (h : ofOptions headers options = .error option) : IsFirstBad options option := by
  by_cases hgood : ∀ other ∈ options, ¬ IsBad other
  · have ⟨entries, _, hread⟩ := ofOptions_of_not_isBad headers hgood
    exact nomatch h.symm.trans hread
  · -- there is a first bad option, and it is the one that is told
    simp only [not_forall, not_not] at hgood
    have ⟨other, hmem, hbad⟩ := hgood
    have ⟨first, hfirst⟩ := exists_isFirstBad hmem hbad
    have htold := h.symm.trans (ofOptions_of_isFirstBad headers hfirst)
    rw [Except.error.inj htold]
    exact hfirst

/-! ## Entries one after another -/

/-- The headers that entries give, from the first entry to the last. -/
def ofEntries (entries : List Entry) : HostHeaders := entries.foldl add {}

/-- Names and values of the entries for one host. -/
def namedFor (host : Text) (entries : List Entry) : List (Text × Text) :=
  (entries.filter (·.host = host)).map fun entry => (entry.name, entry.value)

/-- What headers hold of entries. -/
structure Holds (entries : List Entry) (headers : HostHeaders) : Prop where
  hosts : headers.keys = (entries.map Entry.host).eraseDups
  names : ∀ host names, headers.get? host = some names →
    names.keys = ((entries.filter (·.host = host)).map Entry.name).eraseDups
  /-- The last entry for a host and a name tells the value. -/
  values : ∀ host names, headers.get? host = some names → ∀ name,
    names.get? name = (entries.findRev? fun e => e.host = host ∧ e.name = name).map Entry.value

theorem ofEntries_concat (entries : List Entry) (entry : Entry) :
    ofEntries (entries ++ [entry]) = (ofEntries entries).add entry := List.foldl_append

theorem keys_ofEntries (entries : List Entry) :
    (ofEntries entries).keys = (entries.map Entry.host).eraseDups := by
  induction entries using List.reverseRecOn with
  | nil => rfl
  | append_singleton entries entry ih =>
    rw [ofEntries_concat, add, Mapping.keys_insert, ih, List.map_append]
    exact (Mapping.eraseDups_concat _ _).symm

/-- What a host has is collected from the entries for it, and from no other. -/
theorem getD_get?_ofEntries (entries : List Entry) (host : Text) :
    ((ofEntries entries).get? host).getD {} = Mapping.ofList (namedFor host entries) := by
  -- from the end, since the last entry is the one that is added to all others
  induction entries using List.reverseRecOn with
  | nil => rfl
  | append_singleton entries entry ih =>
    have hnamed : namedFor host (entries ++ [entry]) =
        namedFor host entries ++ namedFor host [entry] := by
      rw [namedFor, List.filter_append, List.map_append]
      rfl
    rw [ofEntries_concat, add, Mapping.get?_insert, hnamed]
    by_cases h : host = entry.host
    · have hsingle : namedFor host [entry] = [(entry.name, entry.value)] := by simp [namedFor, h]
      rw [if_pos h, Option.getD_some, ← h, ih, hsingle, Mapping.ofList_append_singleton]
    · -- an entry for another host changes nothing here
      have hnone : namedFor host [entry] = [] := by simp [namedFor, Ne.symm h]
      rw [if_neg h, ih, hnone, List.append_nil]

theorem holds_ofEntries (entries : List Entry) : Holds entries (ofEntries entries) := by
  have hnames : ∀ {host names}, (ofEntries entries).get? host = some names →
      names = Mapping.ofList (namedFor host entries) := by
    intro host names h
    rw [← getD_get?_ofEntries, h, Option.getD_some]
  refine ⟨keys_ofEntries entries, ?_, ?_⟩
  · intro host names h
    rw [hnames h, Mapping.keys_ofList, namedFor, List.map_map]
    rfl
  · intro host names h name
    rw [hnames h, Mapping.get?_ofList_eq_lookup, Mapping.lookup_eq_find?, namedFor,
      ← List.map_reverse, ← List.filter_reverse, List.find?_map, List.find?_filter, Option.map_map,
      List.findRev?_eq_find?_reverse]
    simp [Function.comp_def]

/-! ## What becomes of options -/

/-- How options are read, whatever they are. -/
structure AreRead (options : List Text) : Prop where
  refuses_iff : (∃ option, ofOptions {} options = .error option) ↔ ∃ option ∈ options, IsBad option
  /-- The option that is reported is the first bad one. -/
  error_iff : ∀ option, ofOptions {} options = .error option ↔ IsFirstBad options option
  message : ∀ option, IsFirstBad options option → (ofOptions {} options).mapError badOption =
    .error ("Expected HOST=Name: value, got " ++ option.quoted)
  reads : (∀ option ∈ options, ¬ IsBad option) →
    ∃ entries headers, List.Forall₂ IsEntry options entries ∧ ofOptions {} options = .ok headers ∧
      Holds entries headers

/-- **Options for hosts.**  Options are refused if and only if one of them is bad, and the first bad one is
    reported.  Otherwise the result has each host, and for each host each of its names, in the order
    in which they came first, with the value that came last. -/
theorem areRead (options : List Text) : AreRead options where
  refuses_iff := by
    constructor
    · intro ⟨option, h⟩
      have ⟨before, after, hoptions, hbad, _⟩ := isFirstBad_of_ofOptions h
      exact ⟨option, by simp [hoptions], hbad⟩
    · intro ⟨option, hmem, hbad⟩
      have ⟨first, hfirst⟩ := exists_isFirstBad hmem hbad
      exact ⟨first, ofOptions_of_isFirstBad {} hfirst⟩
  error_iff _ := ⟨isFirstBad_of_ofOptions, ofOptions_of_isFirstBad {}⟩
  message option hfirst := by
    rw [ofOptions_of_isFirstBad {} hfirst]
    rfl
  reads hgood := by
    have ⟨entries, hentries, hread⟩ := ofOptions_of_not_isBad {} hgood
    exact ⟨entries, ofEntries entries, hentries, hread, holds_ofEntries entries⟩

example : (ofOptions {} ["a.example=X: 1", "b.example=Y:k=v:w", "a.example = X : 2"]).toOption.map
      (fun headers => headers.toList.map fun (host, names) => (host, names.toList)) =
    (some [("a.example", [("X", "2")]), ("b.example", [("Y", "k=v:w")])] :
      Option (List (Text × List (Text × Text)))) := by decide

end HostHeaders

end ImageDiscovery
