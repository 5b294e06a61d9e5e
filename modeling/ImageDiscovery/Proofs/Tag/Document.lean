import ImageDiscovery.Proofs.Identifier
import ImageDiscovery.Proofs.Json.Objects
import ImageDiscovery.Validation.Members

/-!
# Tag documents — tag data that is written out and read again

A document that has the two members of tag data is read as that data whatever other members it has, as
long as the reader takes them; otherwise it is no document.
-/

namespace ImageDiscovery

/-! ## Tables -/

namespace Members

variable {α : Type}

theorem all_map_ok (xs : List α) : Checked.all (xs.map Except.ok) = .ok xs := by
  induction xs with
  | nil => rfl
  | cons x xs ih =>
    rw [List.map_cons, Checked.all, ih]
    rfl

theorem table_eq_ok {origin : Origin} {read : List Text → Json → Checked α} {path : List Text}
    {m : Mapping α} {f : α → Json}
    (h : ∀ entry ∈ m.toList, read (path ++ [entry.1]) (f entry.2) = .ok entry.2) :
    table origin read path (.object (m.map f).toList) = .ok m := by
  have hentries : (m.map f).toList.map (fun entry =>
      (read (path ++ [entry.1]) entry.2).map fun x => (entry.1, x)) = m.toList.map Except.ok := by
    show (m.toList.map _).map _ = _
    rw [List.map_map]
    refine List.map_congr_left fun entry hentry => ?_
    show (read (path ++ [entry.1]) (f entry.2)).map _ = _
    rw [h entry hentry]
    rfl
  show (Checked.all ((m.map f).toList.map fun entry =>
    (read (path ++ [entry.1]) entry.2).map fun x => (entry.1, x))).map _ = _
  rw [hentries, all_map_ok]
  exact congrArg Except.ok (Mapping.ofList_toList m)

theorem optional_of_lookup {members : List (Text × Json)} {name : Text} {value : Json}
    (h : Mapping.lookup name members = some value) (absent : α)
    (read : List Text → Json → Checked α) :
    Members.optional members name absent read = read [name] value := by
  unfold Members.optional
  rw [h]

theorem obeying_eq_ok {rule : α → Option Rejection} {read : List Text → Json → Checked α}
    {path : List Text} {value : Json} {x : α} (hread : read path value = .ok x)
    (hrule : rule x = none) : obeying rule read path value = .ok x := by
  simp only [obeying, hread, bind, Except.bind, hrule, pure, Except.pure]

end Members

/-! ## Tag data -/

namespace TagData

/-- An object with texts as its members. -/
def textsJson (m : Mapping Text) : Json := .object (m.map Json.text).toList

/-- The texts that the data is made of have UTF-8 forms; labels have them by their rules. -/
structure IsEncodable (data : TagData) : Prop where
  aliases : ∀ entry ∈ data.aliases.toList, Text.Encodable entry.1 ∧ Text.Encodable entry.2
  tags : ∀ entry ∈ data.labels.toList, Text.Encodable entry.1
  values : ∀ entry ∈ data.labels.toList, ∀ label ∈ entry.2.toList, Text.Encodable label.2

/-- The data is in an object, at whatever places, beside whatever other members. -/
structure IsIn (data : TagData) (served : Mapping Json) : Prop where
  aliases : served.get? "aliases" = some (textsJson data.aliases)
  labels : served.get? "labels" = some (.object (data.labels.map textsJson).toList)

/-- The reader for what comes over the wire takes the other members of an object. -/
def TakesOthers (served : Mapping Json) : Prop :=
  ∀ member ∈ served.toList, member.1 ≠ "aliases" → member.1 ≠ "labels" →
    Json.wire.takes member.1 = true ∧ member.2.isReadable Json.wire Json.maxLevels = true

instance (served : Mapping Json) : Decidable (TakesOthers served) :=
  inferInstanceAs (Decidable (∀ member ∈ served.toList, _))

variable {data : TagData} {served : Mapping Json}

/-- What is written for the data alone has no other members. -/
theorem takesOthers_of_toJson (h : .object served.toList = data.toJson) : TakesOthers served := by
  let members : List (Text × Json) :=
    [("aliases", textsJson data.aliases), ("labels", .object (data.labels.map textsJson).toList)]
  have hlist : served.toList = members := Json.object.inj h
  intro member hmember haliases hlabels
  rw [hlist] at hmember
  obtain rfl | hmember := List.mem_cons.mp hmember
  · exact absurd rfl haliases
  · rw [List.mem_singleton.mp hmember] at hlabels
    exact absurd rfl hlabels

theorem textsJson_of_encodable {m : Mapping Text}
    (h : ∀ entry ∈ m.toList, Text.Encodable entry.1 ∧ Text.Encodable entry.2) :
    (textsJson m).readBack Json.wire = textsJson m ∧
      ∀ levels, (textsJson m).isReadable Json.wire (levels + 2) = true := by
  have hkeys : ∀ entry ∈ m.toList, Text.Encodable entry.1 := fun entry hentry => (h entry hentry).1
  constructor
  · refine Json.readBack_table hkeys _ fun entry hentry => ?_
    exact congrArg Json.text (Json.joined_of_encodable (h entry hentry).2)
  · intro levels
    exact Json.isReadable_table hkeys fun entry hentry =>
      Json.takes_of_encodable _ (h entry hentry).2

theorem encodable_labels (hdata : data.IsEncodable) :
    ∀ entry ∈ data.labels.toList, ∀ label ∈ entry.2.toList,
      Text.Encodable label.1 ∧ Text.Encodable label.2 := by
  intro entry hentry label hlabel
  have hset : checkLabels entry.2 = none :=
    List.findSome?_eq_none_iff.mp data.labels_ok entry hentry
  have hpoints := (of_checkLabel (checkLabels_eq_none_iff.mp hset label hlabel)).2
  exact ⟨fun p hp => Identifier.isChar_of_isPoint (hpoints p hp),
    hdata.values entry hentry label hlabel⟩

theorem labelsJson_of_encodable (hdata : data.IsEncodable) :
    (Json.object (data.labels.map textsJson).toList).readBack Json.wire =
        .object (data.labels.map textsJson).toList ∧
      ∀ levels, (Json.object (data.labels.map textsJson).toList).isReadable Json.wire
        (levels + 3) = true := by
  have hsets := encodable_labels hdata
  constructor
  · exact Json.readBack_table hdata.tags _ fun entry hentry =>
      (textsJson_of_encodable (hsets entry hentry)).1
  · intro levels
    exact Json.isReadable_table hdata.tags fun entry hentry =>
      (textsJson_of_encodable (hsets entry hentry)).2 levels

theorem make?_labels (data : TagData) : make? data.aliases data.labels = .ok data := by
  unfold make?
  split
  · rfl
  · rename_i h
    exact absurd (data.labels_ok.symm.trans h) nofun

theorem ofMembers?_eq_ok {members : List (Text × Json)}
    (haliases : Mapping.lookup "aliases" members = some (textsJson data.aliases))
    (hlabels : Mapping.lookup "labels" members =
      some (.object (data.labels.map textsJson).toList)) (origin : Members.Origin) :
    ofMembers? origin members = .ok data := by
  have htexts : ∀ (path : List Text) (m : Mapping Text),
      Members.table origin Members.text path (textsJson m) = .ok m :=
    fun path m => Members.table_eq_ok fun _ _ => rfl
  have hsets : Members.table origin (Members.table origin Members.text) ["labels"]
      (.object (data.labels.map textsJson).toList) = .ok data.labels :=
    Members.table_eq_ok fun entry _ => htexts _ entry.2
  rw [ofMembers?, Members.optional_of_lookup haliases, Members.optional_of_lookup hlabels, htexts,
    Members.obeying_eq_ok hsets data.labels_ok]
  show (make? data.aliases data.labels).mapError _ = _
  rw [make?_labels]
  rfl

/-- The whole document is read where its other members are. -/
theorem isReadable_iff (hdata : data.IsEncodable) (hserved : data.IsIn served) :
    (Json.object served.toList).isReadable Json.wire (Json.maxLevels + 1) = true ↔
      TakesOthers served := by
  have hmembers : (Json.object served.toList).isReadable Json.wire (Json.maxLevels + 1) = true ↔ _ :=
    Json.membersReadable_iff
  rw [hmembers]
  constructor
  · exact fun h member hmember _ _ => h member hmember
  · intro h member hmember
    -- the members of the data are taken in any case
    have hvalue : served.get? member.1 = some member.2 := Mapping.get?_of_mem hmember
    by_cases haliases : member.1 = "aliases"
    · rw [haliases, hserved.aliases] at hvalue
      rw [haliases, ← Option.some.inj hvalue]
      exact ⟨by decide, (textsJson_of_encodable hdata.aliases).2 198⟩
    · by_cases hlabels : member.1 = "labels"
      · rw [hlabels, hserved.labels] at hvalue
        rw [hlabels, ← Option.some.inj hvalue]
        exact ⟨by decide, (labelsJson_of_encodable hdata).2 197⟩
      · exact h member hmember haliases hlabels

/-- A document with tag data in it is read as that data, or not at all. -/
theorem ofBytes?_of_isIn (hdata : data.IsEncodable) (hserved : data.IsIn served) :
    ofBytes? (Json.object served.toList).toText.utf8 =
      if TakesOthers served then .ok data
      else .error ⟨model, Members.fault [] .notJson⟩ := by
  have hreadable := isReadable_iff hdata hserved
  rw [ofBytes?, Json.ofBytes?_toText]
  by_cases h : TakesOthers served
  · have haliases := Json.get?_membersBack Json.wire (by decide) hserved.aliases
    have hlabels := Json.get?_membersBack Json.wire (by decide) hserved.labels
    rw [(textsJson_of_encodable hdata.aliases).1] at haliases
    rw [(labelsJson_of_encodable hdata).1] at hlabels
    rw [if_pos (hreadable.mpr h), if_pos h]
    exact ofMembers?_eq_ok haliases hlabels .document
  · rw [if_neg fun hread => h (hreadable.mp hread), if_neg h]

end TagData

end ImageDiscovery
