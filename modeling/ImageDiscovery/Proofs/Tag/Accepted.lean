import ImageDiscovery.Proofs.Json.Documents
import ImageDiscovery.Proofs.Outcome
import ImageDiscovery.Proofs.Tag.Document

/-!
# Accepted documents — which bytes are tag data, and what they tell

Bytes are tag data exactly when they are a document that has tables where tables belong and whose label
sets obey the rules for labels.  Each member that is written in a table must have the right shape, also
one whose name comes again; what counts is the last of them, and the rules are only for what counts.
-/

namespace ImageDiscovery

/-! ## Checks that pass -/

namespace Checked

variable {α β : Type}

theorem both_eq_ok_iff {x : Checked α} {y : Checked β} {a : α} {b : β} :
    both x y = .ok (a, b) ↔ x = .ok a ∧ y = .ok b := by
  cases x with
  | error faults => cases y <;> simp [both]
  | ok a' => cases y <;> simp [both]

theorem all_eq_ok_iff {checks : List (Checked α)} {values : List α} :
    all checks = .ok values ↔ List.Forall₂ (fun check value => check = .ok value) checks values := by
  induction checks generalizing values with
  | nil =>
    rw [List.forall₂_nil_left_iff, all, Except.ok.injEq]
    exact eq_comm
  | cons check checks ih =>
    rw [all]
    constructor
    · intro h
      obtain ⟨⟨value, others⟩, hboth, rfl⟩ := exists_of_map_eq_ok h
      obtain ⟨hvalue, hothers⟩ := both_eq_ok_iff.mp hboth
      exact .cons hvalue (ih.mp hothers)
    · rintro (_ | ⟨hvalue, hothers⟩)
      rw [both_eq_ok_iff.mpr ⟨hvalue, ih.mpr hothers⟩]
      rfl

end Checked

/-! ## What members tell -/

namespace Members

variable {α : Type} {Is : Json → α → Prop} {read : List Text → Json → Checked α}

def IsText (v : Json) (t : Text) : Prop := v = .text t

/-- A member tells an entry. -/
def Tells (Is : Json → α → Prop) (member : Text × Json) (entry : Text × α) : Prop :=
  member.1 = entry.1 ∧ Is member.2 entry.2

/-- An object all of whose members tell entries, and what is kept of these. -/
inductive IsTable (Is : Json → α → Prop) : Json → Mapping α → Prop where
  | object {members : List (Text × Json)} {entries : List (Text × α)} {m : Mapping α}
    (htold : List.Forall₂ (Tells Is) members entries) (hkept : Mapping.IsKept entries m) :
    IsTable Is (.object members) m

/-- What the last member with a name tells; without one, nothing is told. -/
inductive IsSection (Is : Json → Mapping α → Prop) (members : List (Text × Json)) (name : Text) :
    Mapping α → Prop where
  | absent (h : Mapping.lookup name members.reverse = none) : IsSection Is members name {}
  | last {v : Json} {m : Mapping α} (h : Mapping.lookup name members.reverse = some v) (hv : Is v m) :
    IsSection Is members name m

/-- A value passes a check exactly if it stands for something, and then it is read as that. -/
def Reads (Is : Json → α → Prop) (read : List Text → Json → Checked α) : Prop :=
  ∀ (path : List Text) (v : Json) (x : α), read path v = .ok x ↔ Is v x

theorem reads_text : Reads IsText text := by
  intro path v x
  unfold IsText text
  split
  · rw [Except.ok.injEq, Json.text.injEq]
  · rename_i hother
    exact ⟨nofun, fun heq => absurd heq (hother x)⟩

theorem Reads.table (h : Reads Is read) (origin : Origin) : Reads (IsTable Is) (table origin read) := by
  -- each member is read under its own name
  have hentry : ∀ {path : List Text} {member : Text × Json} {entry : Text × α},
      (read (path ++ [member.1]) member.2).map (fun x => (member.1, x)) = .ok entry ↔
        Tells Is member entry := by
    intro path member entry
    constructor
    · intro hread
      obtain ⟨x, hx, rfl⟩ := exists_of_map_eq_ok hread
      exact ⟨rfl, (h _ _ _).mp hx⟩
    · rintro ⟨hname, hvalue⟩
      rw [(h _ _ _).mpr hvalue, hname]
      rfl
  intro path v m
  unfold Members.table
  split
  · rename_i members
    constructor
    · intro hread
      obtain ⟨entries, hall, hkept⟩ := exists_of_map_eq_ok hread
      rw [Checked.all_eq_ok_iff, List.forall₂_map_left_iff] at hall
      exact .object (hall.imp fun _ _ => hentry.mp) (Mapping.ofList_eq_iff_isKept.mp hkept)
    · rintro ⟨htold, hkept⟩
      rw [Checked.all_eq_ok_iff.mpr (List.forall₂_map_left_iff.mpr (htold.imp fun _ _ => hentry.mpr))]
      exact congrArg Except.ok (Mapping.ofList_eq_iff_isKept.mpr hkept)
  · rename_i hother
    constructor
    · exact nofun
    · rintro ⟨-, -⟩
      exact absurd rfl (hother _)

variable {IsIn : Json → Mapping α → Prop} {readIn : List Text → Json → Checked (Mapping α)}

theorem optional_eq_ok_iff (h : Reads IsIn readIn) (members : List (Text × Json)) (name : Text)
    (m : Mapping α) :
    Members.optional (Mapping.ofList members).toList name {} readIn = .ok m ↔
      IsSection IsIn members name m := by
  have hlast : Mapping.lookup name (Mapping.ofList members).toList =
      Mapping.lookup name members.reverse := Mapping.get?_ofList_eq_lookup members name
  rw [Members.optional, hlast]
  constructor
  · intro hread
    split at hread
    · rename_i v hv
      exact .last hv ((h _ _ _).mp hread)
    · rename_i hnone
      cases hread
      exact .absent hnone
  · rintro (hnone | ⟨hv, hm⟩)
    · rw [hnone]
    · rw [hv]
      exact (h _ _ _).mpr hm

/-- With a rule, what is read is what is told and obeys the rule. -/
theorem Reads.obeying (h : Reads Is read) (rule : α → Option Rejection) :
    Reads (fun v x => Is v x ∧ rule x = none) (obeying rule read) := by
  intro path v x
  constructor
  · intro hread
    obtain ⟨y, hy, hread⟩ := exists_of_bind_eq_ok hread
    split at hread
    · rename_i hrule
      cases hread
      exact ⟨(h _ _ _).mp hy, hrule⟩
    · exact nomatch hread
  · exact fun ⟨hvalue, hrule⟩ => obeying_eq_ok ((h _ _ _).mpr hvalue) hrule

theorem obeying_eq_error {rule : α → Option Rejection} {path : List Text} {v : Json} {x : α}
    {rejection : Rejection} (hread : read path v = .ok x) (hrule : rule x = some rejection) :
    Members.obeying rule read path v = .error (fault path (.rejected rejection)) := by
  simp only [Members.obeying, hread, bind, Except.bind, hrule]

/-- A rule that nothing breaks where nothing is told. -/
theorem isSection_and_iff {P : Mapping α → Prop} (hempty : P {}) {members : List (Text × Json)}
    {name : Text} {m : Mapping α} :
    IsSection (fun v m => IsIn v m ∧ P m) members name m ↔ IsSection IsIn members name m ∧ P m := by
  constructor
  · rintro (hnone | ⟨hv, hm, hrule⟩)
    · exact ⟨.absent hnone, hempty⟩
    · exact ⟨.last hv hm, hrule⟩
  · rintro ⟨hnone | ⟨hv, hm⟩, hrule⟩
    · exact .absent hnone
    · exact .last hv ⟨hm, hrule⟩

end Members

/-! ## Tag data -/

namespace TagData

open Members

/-- A label set that obeys the rules for labels. -/
def IsLabelSet (labels : Mapping Text) : Prop :=
  ∀ label ∈ labels.toList,
    label.1 ≠ reservedLabel ∧ isIdentifier label.1 = true ∧ label.2.length ≤ maxLabelLength

theorem checkLabelSets_eq_none_iff {sets : Mapping (Mapping Text)} :
    checkLabelSets sets = none ↔ ∀ set ∈ sets.toList, IsLabelSet set.2 := by
  unfold checkLabelSets IsLabelSet
  rw [List.findSome?_eq_none_iff]
  simp only [checkLabels_eq_none_iff, checkLabel_eq_none_iff]

/-- An object that tells aliases and label sets, whatever the rules say of these. -/
structure HasTables (v : Json) (aliases : Mapping Text) (labels : Mapping (Mapping Text)) : Prop where
  told : ∃ members, v = .object members ∧ IsSection (IsTable IsText) members "aliases" aliases ∧
    IsSection (IsTable (IsTable IsText)) members "labels" labels

variable {bytes : Bytes} {data : TagData} {aliases : Mapping Text} {labels : Mapping (Mapping Text)}
  {v : Json}

theorem make?_eq_ok_iff :
    make? aliases labels = .ok data ↔ aliases = data.aliases ∧ labels = data.labels := by
  constructor
  · intro h
    unfold make? at h
    split at h
    · cases h
      exact ⟨rfl, rfl⟩
    · exact nomatch h
  · rintro ⟨rfl, rfl⟩
    exact make?_labels data

theorem ofMembers?_eq_ok_iff {members : List (Text × Json)} :
    ofMembers? .document (Mapping.ofList members).toList = .ok data ↔
      IsSection (IsTable IsText) members "aliases" data.aliases ∧
        IsSection (IsTable (IsTable IsText)) members "labels" data.labels := by
  have htexts := reads_text.table .document
  have haliases := optional_eq_ok_iff htexts members "aliases" data.aliases
  have hlabels := optional_eq_ok_iff ((htexts.table .document).obeying checkLabelSets) members "labels"
    data.labels
  rw [isSection_and_iff (P := (checkLabelSets · = none)) rfl] at hlabels
  unfold ofMembers?
  constructor
  · intro h
    obtain ⟨⟨aliases, labels⟩, hboth, hmade⟩ := exists_of_bind_eq_ok h
    obtain ⟨rfl, rfl⟩ := make?_eq_ok_iff.mp (eq_ok_of_mapError_eq_ok hmade)
    obtain ⟨haliases', hlabels'⟩ := Checked.both_eq_ok_iff.mp (eq_ok_of_mapError_eq_ok hboth)
    exact ⟨haliases.mp haliases', (hlabels.mp hlabels').1⟩
  · intro ⟨haliases', hlabels'⟩
    rw [haliases.mpr haliases', hlabels.mpr ⟨hlabels', data.labels_ok⟩]
    show (make? data.aliases data.labels).mapError _ = _
    rw [make?_labels]
    rfl

/-- Bytes that are a document with tables. -/
theorem ofBytes?_eq_ok_iff :
    ofBytes? bytes = .ok data ↔
      ∃ v, Json.IsWritten Json.wire.dialect (Json.maxLevels + 1) bytes v ∧
        HasTables v data.aliases data.labels := by
  simp only [← Json.ofBytes?_eq_some_iff]
  unfold ofBytes?
  constructor
  · intro h
    split at h
    · exact nomatch h
    · rename_i members hread
      exact ⟨_, hread, ⟨members, rfl, ofMembers?_eq_ok_iff.mp h⟩⟩
    · exact nomatch h
  · intro ⟨v, hread, htables⟩
    obtain ⟨members, rfl, hsections⟩ := htables.told
    rw [hread]
    exact ofMembers?_eq_ok_iff.mpr hsections

/-- Tag data is read where the tables are there and each label set obeys the rules. -/
theorem exists_ofBytes?_eq_ok_iff :
    (∃ data, ofBytes? bytes = .ok data) ↔
      ∃ v aliases labels, Json.IsWritten Json.wire.dialect (Json.maxLevels + 1) bytes v ∧
        HasTables v aliases labels ∧ ∀ set ∈ labels.toList, IsLabelSet set.2 := by
  simp only [ofBytes?_eq_ok_iff]
  constructor
  · intro ⟨data, v, hwritten, htables⟩
    exact ⟨v, _, _, hwritten, htables, checkLabelSets_eq_none_iff.mp data.labels_ok⟩
  · intro ⟨v, aliases, labels, hwritten, htables, hrules⟩
    exact ⟨⟨aliases, labels, checkLabelSets_eq_none_iff.mpr hrules⟩, v, hwritten, htables⟩

/-- Whatever else a document holds, the first label that breaks a rule is what is wrong with it. -/
theorem ofBytes?_of_checkLabelSets {rejection : Rejection}
    (hwritten : Json.IsWritten Json.wire.dialect (Json.maxLevels + 1) bytes v)
    (htables : HasTables v aliases labels) (hrule : checkLabelSets labels = some rejection) :
    ofBytes? bytes = .error ⟨model, Members.fault ["labels"] (.rejected rejection)⟩ := by
  obtain ⟨members, rfl, haliases, hlabels⟩ := htables.told
  have htexts := reads_text.table .document
  have hlast : Mapping.lookup "labels" (Mapping.ofList members).toList =
      Mapping.lookup "labels" members.reverse := Mapping.get?_ofList_eq_lookup members "labels"
  obtain hnone | ⟨hv, hm⟩ := hlabels
  · -- without label sets there is nothing to reject
    exact nomatch hrule
  · rw [ofBytes?, Json.ofBytes?_eq_some_iff.mpr hwritten]
    dsimp only
    rw [ofMembers?, (optional_eq_ok_iff htexts _ _ _).mpr haliases, Members.optional, hlast, hv]
    dsimp only
    rw [obeying_eq_error ((htexts.table .document _ _ _).mpr hm) hrule]
    rfl

end TagData

end ImageDiscovery
