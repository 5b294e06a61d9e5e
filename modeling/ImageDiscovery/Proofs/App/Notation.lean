import ImageDiscovery.Error
import ImageDiscovery.Proofs.Identifier
import ImageDiscovery.Proofs.Mapping
import ImageDiscovery.Proofs.Outcome
import ImageDiscovery.Proofs.Url.Percent

/-!
# Notation — apps that are read back from their text form

The text form joins a name and labels without any escapes, and the notation cuts at commas and spells
colons out.  So what is read has neither of them in its values, and an app is read back from its text
form if and only if its values have neither and can be encoded.
-/

namespace ImageDiscovery

namespace App

/-! ## Segments -/

/-- A label and its value as they stand in the notation. -/
def segment (entry : Text × Text) : Text := entry.1 ++ .char '=' :: entry.2

/-- The text of a segment tells its label from its value, and the value can be encoded. -/
def Legible (entry : Text × Text) : Prop := .char '=' ∉ entry.1 ∧ entry.2.Encodable

theorem readSegment_segment {label value : Text} (h : .char '=' ∉ label) :
    readSegment (segment (label, value)) =
      if value.Encodable then .ok (label, Percent.encodeValue value)
      else .error (.brokenValue label) := by
  rw [readSegment, segment, Text.cut_append h]

theorem readSegment_eq_ok_iff {t label form : Text} :
    readSegment t = .ok (label, form) ↔
      ∃ value, Legible (label, value) ∧ t = segment (label, value) ∧
        form = Percent.encodeValue value := by
  constructor
  · intro h
    unfold readSegment at h
    split at h
    · exact nomatch h
    · rename_i first value hcut
      split at h
      · rename_i hvalue
        cases h
        have hparts := Text.cut_eq_some hcut
        exact ⟨value, ⟨hparts.2, hvalue⟩, hparts.1, rfl⟩
      · exact nomatch h
  · rintro ⟨value, hlegible, rfl, rfl⟩
    rw [readSegment_segment hlegible.1, if_pos hlegible.2]

/-- A label with the percent form of its value. -/
def encoded (entry : Text × Text) : Text × Text := (entry.1, Percent.encodeValue entry.2)

theorem mapM_readSegment_eq_ok_iff {parts : List Text} {forms : List (Text × Text)} :
    parts.mapM readSegment = .ok forms ↔
      ∃ entries : List (Text × Text), (∀ entry ∈ entries, Legible entry) ∧
        parts = entries.map segment ∧ forms = entries.map encoded := by
  induction parts generalizing forms with
  | nil =>
    constructor
    · intro h
      exact ⟨[], by simp, rfl, (Except.ok.inj h).symm⟩
    · rintro ⟨entries, -, hparts, rfl⟩
      rw [List.map_eq_nil_iff.mp hparts.symm]
      rfl
  | cons part parts ih =>
    rw [List.mapM_cons]
    constructor
    · intro h
      obtain ⟨⟨label, form⟩, hfirst, h⟩ := exists_of_bind_eq_ok h
      obtain ⟨others, hothers, h⟩ := exists_of_bind_eq_ok h
      obtain ⟨value, hlegible, rfl, rfl⟩ := readSegment_eq_ok_iff.mp hfirst
      obtain ⟨entries, hentries, rfl, rfl⟩ := ih.mp hothers
      refine ⟨(label, value) :: entries, List.forall_mem_cons.mpr ⟨hlegible, hentries⟩, rfl, ?_⟩
      exact (Except.ok.inj h).symm
    · rintro ⟨entries, hentries, hparts, rfl⟩
      cases entries with
      | nil => exact nomatch hparts
      | cons entry entries =>
        rw [List.forall_mem_cons] at hentries
        obtain ⟨rfl, rfl⟩ := List.cons.inj hparts
        have hfirst : readSegment (segment entry) = .ok (encoded entry) :=
          readSegment_eq_ok_iff.mpr ⟨entry.2, hentries.1, rfl, rfl⟩
        rw [hfirst, ih.mpr ⟨entries, hentries.2, rfl, rfl⟩]
        rfl

/-! ## Labels -/

theorem readValue_encodeValue (label : Text) {value : Text} (h : value.Encodable) :
    readValue label (Percent.encodeValue value) = .ok value := by
  rw [readValue, Percent.decodeValue?_encodeValue h]

/-- Labels are taken in the order in which they are given, none of them twice. -/
theorem collect_eq_ok_iff {labels result : Mapping Text} {entries : List (Text × Text)}
    (h : ∀ entry ∈ entries, Legible entry) :
    collect labels (entries.map encoded) = .ok result ↔
      (∀ entry ∈ entries, entry.1 ≠ reservedLabel) ∧
        result.toList = labels.toList ++ entries := by
  induction entries generalizing labels with
  | nil =>
    rw [List.map_nil, collect, List.append_nil, Except.ok.injEq]
    constructor
    · rintro rfl
      exact ⟨by simp, rfl⟩
    · intro ⟨_, hlist⟩
      exact (Mapping.toList_inj hlist).symm
  | cons entry entries ih =>
    obtain ⟨label, value⟩ := entry
    rw [List.forall_mem_cons] at h
    rw [List.map_cons, encoded, collect, readValue_encodeValue label h.1.2, List.forall_mem_cons]
    show (if label = reservedLabel then _ else _) = _ ↔ _
    by_cases hreserved : label = reservedLabel
    · simp [hreserved]
    rw [if_neg hreserved]
    cases hget : labels.get? label with
    | some first =>
      -- the labels that were asked for would have two values for one name
      have hmem : label ∈ labels.keys := Mapping.contains_iff.mp (by simp [Mapping.contains, hget])
      constructor
      · exact nofun
      · intro ⟨_, hlist⟩
        have hdistinct := result.distinct
        rw [hlist, List.map_append, List.nodup_append] at hdistinct
        exact absurd rfl (hdistinct.2.2 label hmem label (by simp))
    | none =>
      have hinsert : (labels.insert label value).toList = labels.toList ++ [(label, value)] :=
        Mapping.put_of_not_mem value (Mapping.lookup_eq_none_iff.mp hget)
      show collect (labels.insert label value) _ = _ ↔ _
      rw [ih h.2, hinsert, List.append_assoc, List.singleton_append]
      simp [hreserved]

/-! ## Apps -/

theorem read_eq_ok_iff {t : Text} {app : App} :
    read t = .ok app ↔ ∃ first, (spelledOut t).split (.char ',') =
        ((first, app.name) :: app.labels.toList).map segment ∧
      ∀ entry ∈ (first, app.name) :: app.labels.toList, Legible entry := by
  constructor
  · intro h
    obtain ⟨forms, hforms, h⟩ := exists_of_bind_eq_ok h
    obtain ⟨entries, hentries, hsplit, rfl⟩ := mapM_readSegment_eq_ok_iff.mp hforms
    cases entries with
    | nil => exact nomatch h
    | cons entry entries =>
      obtain ⟨first, name⟩ := entry
      have hlegible := List.forall_mem_cons.mp hentries
      obtain ⟨value, hvalue, h⟩ := exists_of_bind_eq_ok h
      obtain rfl : name = value :=
        Except.ok.inj ((readValue_encodeValue first hlegible.1.2).symm.trans hvalue)
      obtain ⟨labels, hlabels, h⟩ := exists_of_bind_eq_ok h
      obtain ⟨hname, happ⟩ := name_of_make? (eq_ok_of_mapError_eq_ok h)
      have hlist : labels.toList = entries := ((collect_eq_ok_iff hlegible.2).mp hlabels).2
      refine ⟨first, ?_⟩
      rw [hname, happ, hlist]
      exact ⟨hsplit, hentries⟩
  · rintro ⟨first, hsplit, hlegible⟩
    have hforms := mapM_readSegment_eq_ok_iff.mpr ⟨_, hlegible, hsplit, rfl⟩
    rw [List.forall_mem_cons] at hlegible
    have hcollect : collect {} (app.labels.toList.map encoded) = .ok app.labels :=
      (collect_eq_ok_iff hlegible.2).mpr ⟨fun entry hentry => (app.of_mem_labels hentry).1, rfl⟩
    have hname := readValue_encodeValue first hlegible.1.2
    simp only [read, hforms, List.map_cons, encoded, hname, hcollect, bind, Except.bind,
      app.make?_labels]
    rfl

/-! ## Written and read again -/

/-- What the notation can say of a value. -/
structure IsWritable (value : Text) : Prop where
  noColon : .char ':' ∉ value
  noComma : .char ',' ∉ value
  encodable : value.Encodable

/-- The text form of an app is read as that app, but for the order of its labels. -/
def ReadsBack (app : App) : Prop := ∃ again, ofText? app.toText = .ok again ∧ again.same app = true

theorem ofText?_eq_ok_iff {t : Text} {app : App} : ofText? t = .ok app ↔ read t = .ok app := by
  constructor
  · exact eq_ok_of_mapError_eq_ok
  · intro h
    rw [ofText?, h]
    rfl

theorem same_iff {a b : App} : a.same b = true ↔ a.name = b.name ∧ a.labels.sorted = b.labels.sorted := by
  rw [same, Bool.and_eq_true, decide_eq_true_eq, Mapping.same_iff_sorted]

theorem toText_eq_of_same {a b : App} (h : a.same b = true) : a.toText = b.toText := by
  obtain ⟨hname, hsorted⟩ := same_iff.mp h
  rw [toText, toText, hname, hsorted]

theorem toText_eq (app : App) :
    app.toText = Text.join [.char ','] (app.name :: app.labels.sorted.map segment) := rfl

/-- Points of identifiers are none of the marks of the notation. -/
theorem not_mem_segment {p : CodePoint} (hp : Identifier.isPoint p = false) (hsign : p ≠ .char '=')
    {app : App} {entry : Text × Text} (h : entry ∈ app.labels.toList) (hvalue : p ∉ entry.2) :
    p ∉ segment entry := by
  have hlabel : p ∉ entry.1 := fun hmem => by
    rw [(app.of_mem_labels h).2 p hmem] at hp
    exact nomatch hp
  simp [segment, hlabel, hsign, hvalue]

/-- Without colons in its values, an app is spelled out as its name and labels are. -/
theorem spelledOut_toText {app : App} (h : ∀ entry ∈ app.labels.toList, .char ':' ∉ entry.2) :
    spelledOut app.toText = Text.join [.char ','] (app.substitutes.map segment) := by
  have hcolon : .char ':' ∉ app.toText := by
    rw [toText_eq]
    intro hmem
    obtain hmem | ⟨part, hpart, hmem⟩ := Text.of_mem_join hmem
    · simp at hmem
    obtain rfl | hpart := List.mem_cons.mp hpart
    · exact absurd (app.isPoint_of_mem_name hmem) (by decide)
    · obtain ⟨entry, hentry, rfl⟩ := List.mem_map.mp hpart
      have hthere := app.labels.sorted_perm.mem_iff.mp hentry
      exact not_mem_segment (by decide) (by decide) hthere (h entry hthere) hmem
  rw [spelledOut, Text.replace_of_not_mem hcolon, toText_eq, Text.append_join, substitutes,
    List.map_cons, segment, List.append_assoc]
  rfl

theorem readsBack_of_isWritable {app : App}
    (h : ∀ entry ∈ app.labels.toList, IsWritable entry.2) : app.ReadsBack := by
  have hsorted : ∀ entry ∈ app.labels.sorted, entry ∈ app.labels.toList :=
    fun entry => app.labels.sorted_perm.mem_iff.mp
  -- what is read has the labels in the order of their names
  have hdistinct : (app.labels.sorted.map Prod.fst).Nodup :=
    (app.labels.sorted_perm.map Prod.fst).nodup_iff.mpr app.labels.distinct
  have hlabels : checkLabels ⟨app.labels.sorted, hdistinct⟩ = none :=
    checkLabels_eq_none_iff.mpr fun entry hentry =>
      checkLabels_eq_none_iff.mp app.labels_ok entry (hsorted entry hentry)
  refine ⟨⟨app.name, _, app.name_ok, hlabels⟩, ?_, ?_⟩
  · rw [ofText?_eq_ok_iff, read_eq_ok_iff]
    refine ⟨reservedLabel, ?_, ?_⟩
    · rw [spelledOut_toText fun entry hentry => (h entry hentry).noColon, Text.split_join (by simp [substitutes])]
      · rfl
      intro part hpart
      obtain ⟨entry, hentry, rfl⟩ := List.mem_map.mp hpart
      obtain rfl | hentry := List.mem_cons.mp hentry
      · have hname : .char ',' ∉ app.name := fun hmem =>
          absurd (app.isPoint_of_mem_name hmem) (by decide)
        have hreserved : .char ',' ∉ reservedLabel := by decide
        simp [segment, hname, hreserved]
      · have hthere := hsorted entry hentry
        exact not_mem_segment (by decide) (by decide) hthere (h entry hthere).noComma
    · rw [List.forall_mem_cons]
      constructor
      · have hname : Text.Encodable app.name := fun p hp =>
          Identifier.isChar_of_isPoint (app.isPoint_of_mem_name hp)
        have hreserved : .char '=' ∉ reservedLabel := by decide
        exact ⟨hreserved, hname⟩
      · intro entry hentry
        have hthere := hsorted entry hentry
        have hlabel : .char '=' ∉ entry.1 := fun hmem =>
          absurd ((app.of_mem_labels hthere).2 _ hmem) (by decide)
        exact ⟨hlabel, (h entry hthere).encodable⟩
  · rw [same, Bool.and_eq_true]
    exact ⟨decide_eq_true rfl, Mapping.same_iff_perm.mpr app.labels.sorted_perm⟩

/-- Cutting and spelling out leave no mark of the notation in a value that is read. -/
theorem isWritable_of_read {t : Text} {app : App} (h : read t = .ok app) :
    ∀ entry ∈ app.labels.toList, IsWritable entry.2 := by
  intro entry hentry
  obtain ⟨first, hsplit, hlegible⟩ := read_eq_ok_iff.mp h
  have hpart : segment entry ∈ (spelledOut t).split (.char ',') := by
    rw [hsplit]
    exact List.mem_map_of_mem (.tail _ hentry)
  have hvalue : ∀ p ∈ entry.2, p ∈ segment entry := fun p hp => by simp [segment, hp]
  have hcolon : .char ':' ∉ spelledOut t := by
    have hreplaced : .char ':' ∉ t.replace (.char ':') ("," ++ versionLabel ++ "=") :=
      Text.not_mem_replace (by decide)
    have hfront : .char ':' ∉ reservedLabel ++ "=" := by decide
    rw [spelledOut, List.mem_append, not_or]
    exact ⟨hfront, hreplaced⟩
  constructor
  · exact fun hmem => hcolon (Text.mem_of_mem_split hpart (hvalue _ hmem))
  · exact fun hmem => Text.not_mem_of_mem_split hpart (hvalue _ hmem)
  · exact (hlegible entry (.tail _ hentry)).2

theorem readsBack_iff {app : App} :
    app.ReadsBack ↔ ∀ entry ∈ app.labels.toList, IsWritable entry.2 := by
  constructor
  · rintro ⟨again, hagain, hsame⟩ entry hentry
    -- the values that were read are the values of the app
    rw [same, Bool.and_eq_true, Mapping.same_iff_perm] at hsame
    exact isWritable_of_read (ofText?_eq_ok_iff.mp hagain) entry (hsame.2.mem_iff.mpr hentry)
  · exact readsBack_of_isWritable

theorem readsBack_of_ofText? {t : Text} {app : App} (h : ofText? t = .ok app) : app.ReadsBack :=
  readsBack_of_isWritable (isWritable_of_read (ofText?_eq_ok_iff.mp h))

theorem toText_eq_iff_of_readsBack {a b : App} (ha : a.ReadsBack) (hb : b.ReadsBack) :
    a.toText = b.toText ↔ a.same b = true := by
  constructor
  · intro htext
    obtain ⟨x, hx, hxa⟩ := ha
    obtain ⟨y, hy, hyb⟩ := hb
    rw [htext, hy] at hx
    cases hx
    rw [same_iff] at hxa hyb ⊢
    exact ⟨hxa.1.symm.trans hyb.1, hxa.2.symm.trans hyb.2⟩
  · exact toText_eq_of_same

/-- **Round trip.**  An app is read back from its text form if and only if no value of a label has a
    colon, a comma or a lone surrogate in it.  That is so for every app that was read, and two such apps
    have the same text form exactly when they are the same. -/
theorem ofText?_toText :
    (∀ app : App, app.ReadsBack ↔ ∀ entry ∈ app.labels.toList, IsWritable entry.2) ∧
      (∀ {t : Text} {app : App}, ofText? t = .ok app → app.ReadsBack) ∧
      ∀ {s t : Text} {a b : App}, ofText? s = .ok a → ofText? t = .ok b →
        (a.toText = b.toText ↔ a.same b = true) :=
  ⟨fun _ => readsBack_iff, readsBack_of_ofText?, fun ha hb =>
    toText_eq_iff_of_readsBack (readsBack_of_ofText? ha) (readsBack_of_ofText? hb)⟩

theorem ofText?_toText_version :
    let a : App := ⟨"example.com/a", ⟨[("version", "1=2 +%"), ("os", "ü")], by decide⟩,
      by decide, by decide⟩
    let b : App := ⟨"example.com/a", ⟨[("os", "ü"), ("version", "1=2 +%")], by decide⟩,
      by decide, by decide⟩
    ofText? "example.com/a:1=2 +%,os=ü" = .ok a ∧ ofText? "example.com/a,os=ü:1=2 +%" = .ok b ∧
      a.ReadsBack ∧ a.toText = b.toText := by
  intro a b
  have ha : ofText? "example.com/a:1=2 +%,os=ü" = .ok a := by decide +kernel
  have hb : ofText? "example.com/a,os=ü:1=2 +%" = .ok b := by decide +kernel
  have hsame : a.same b = true := by decide
  exact ⟨ha, hb, ofText?_toText.2.1 ha, (ofText?_toText.2.2 ha hb).mpr hsame⟩

/-- A value without the marks of the notation may still have no form in it. -/
theorem exists_app_not_readsBack :
    ¬ ∀ app : App, app.ReadsBack ↔
      ∀ entry ∈ app.labels.toList, .char ':' ∉ entry.2 ∧ .char ',' ∉ entry.2 := by
  intro h
  let app : App := ⟨"a", ⟨[("v", [.lone 0])], by decide⟩, by decide, by decide⟩
  have hread : app.ReadsBack := (h app).mpr (by decide)
  have hvalue := readsBack_iff.mp hread ("v", [.lone 0]) List.mem_cons_self
  exact absurd hvalue.encodable (by decide)

end App

end ImageDiscovery
