import ImageDiscovery.Proofs.Json.Forms
import ImageDiscovery.Proofs.Mapping

/-!
# Objects — what is read of them, member by member

Where no two names become one, the members of an object are read in their order, each value as what it
becomes.  A table whose keys have UTF-8 forms is such an object.
-/

namespace ImageDiscovery

namespace Json

/-! ## Parts one by one -/

theorem itemsBack_eq_map (r : Reading) (items : List Json) :
    itemsBack r items = items.map (readBack r) := by
  induction items with
  | nil => rfl
  | cons item items ih => exact congrArg (_ :: ·) ih

theorem itemsReadable_iff {r : Reading} {levels : Nat} {items : List Json} :
    itemsReadable r levels items = true ↔ ∀ item ∈ items, item.isReadable r levels = true := by
  induction items with
  | nil => exact ⟨fun _ => nofun, fun _ => rfl⟩
  | cons item items ih => rw [itemsReadable, Bool.and_eq_true, ih, List.forall_mem_cons]

theorem membersBack_eq_map (r : Reading) (members : List (Text × Json)) :
    membersBack r members = members.map fun (name, value) => (joined none name, value.readBack r) := by
  induction members with
  | nil => rfl
  | cons member members ih => exact congrArg (_ :: ·) ih

theorem membersReadable_iff {r : Reading} {levels : Nat} {members : List (Text × Json)} :
    membersReadable r levels members = true ↔
      ∀ member ∈ members, r.takes member.1 = true ∧ member.2.isReadable r levels = true := by
  induction members with
  | nil => exact ⟨fun _ => nofun, fun _ => rfl⟩
  | cons member members ih =>
    rw [membersReadable, Bool.and_eq_true, Bool.and_eq_true, ih, List.forall_mem_cons]

theorem takes_of_encodable (r : Reading) {t : Text} (h : t.Encodable) : r.takes t = true := by
  rw [Reading.takes, joined_of_encodable h, decide_eq_true h, Bool.or_true]

/-! ## Objects -/

/-- Members with names of their own are kept by all readers. -/
theorem Reading.members_eq_self (r : Reading) {members : List (Text × Json)}
    (h : (members.map Prod.fst).Nodup) : r.members members = members := by
  unfold Reading.members
  split
  · rfl
  · exact Mapping.toList_ofList h

theorem readBack_object (r : Reading) {members : List (Text × Json)} (names : List Text)
    (hnames : members.map Prod.fst = names) (hencodable : ∀ name ∈ names, Text.Encodable name)
    (hdistinct : names.Nodup) :
    (object members).readBack r =
      object (members.map fun (name, value) => (name, value.readBack r)) := by
  subst hnames
  have hmembers : membersBack r members =
      members.map fun (name, value) => (name, value.readBack r) := by
    rw [membersBack_eq_map]
    refine List.map_congr_left fun member hmember => ?_
    have hname := hencodable member.1 (List.mem_map_of_mem hmember)
    exact congrArg (·, member.2.readBack r) (joined_of_encodable hname)
  have hkept : (members.map fun (name, value) => (name, value.readBack r)).map Prod.fst =
      members.map Prod.fst := by
    rw [List.map_map]
    rfl
  show object (r.members (membersBack r members)) = _
  rw [hmembers, r.members_eq_self (by rw [hkept]; exact hdistinct)]

section

variable {α : Type} {m : Mapping α} {f : α → Json} (hkeys : ∀ entry ∈ m.toList, entry.1.Encodable)

include hkeys

theorem readBack_map (r : Reading) :
    (object (m.map f).toList).readBack r = object (m.map fun x => (f x).readBack r).toList := by
  have hencodable : ∀ name ∈ m.keys, Text.Encodable name := List.forall_mem_map.mpr hkeys
  have hnames : (m.map f).toList.map Prod.fst = m.keys := List.map_map
  rw [readBack_object r m.keys hnames hencodable m.distinct]
  show object ((m.toList.map _).map _) = object (m.toList.map _)
  rw [List.map_map]
  rfl

theorem readBack_table (r : Reading) (hvalues : ∀ entry ∈ m.toList, (f entry.2).readBack r = f entry.2) :
    (object (m.map f).toList).readBack r = object (m.map f).toList := by
  rw [readBack_map hkeys]
  refine congrArg object (List.map_congr_left fun entry hentry => ?_)
  exact congrArg (entry.1, ·) (hvalues entry hentry)

theorem isReadable_table {r : Reading} {levels : Nat}
    (hvalues : ∀ entry ∈ m.toList, (f entry.2).isReadable r levels = true) :
    (object (m.map f).toList).isReadable r (levels + 1) = true := by
  refine membersReadable_iff.mpr ?_
  intro member hmember
  obtain ⟨entry, hentry, rfl⟩ := List.mem_map.mp hmember
  exact ⟨takes_of_encodable r (hkeys entry hentry), hvalues entry hentry⟩

end

/-- A name of low points keeps its value: no other name becomes it. -/
theorem get?_membersBack (r : Reading) {served : Mapping Json} {name : Text} {v : Json}
    (hlow : ∀ p ∈ name, p.toNat < 0xD800) (h : served.get? name = some v) :
    (Mapping.ofList (membersBack r served.toList)).get? name = some (v.readBack r) := by
  have hname : ∀ other, joined none other = name → other = name := by
    intro other hother
    have hjoined : joined none other = other :=
      (eq_of_joined_low (by rintro _ ⟨⟩) (by rw [hother]; exact hlow)).2
    rw [← hjoined, hother]
  have hself : joined none name = name := by
    refine joined_of_encodable fun p hp => ?_
    cases p with
    | char c => rfl
    | lone half => exact absurd (hlow _ hp) (Nat.not_lt.mpr (Nat.le_add_right _ _))
  rw [membersBack_eq_map]
  apply Mapping.get?_ofList
  · exact List.mem_map.mpr ⟨(name, v), Mapping.mem_of_get? h, congrArg (·, v.readBack r) hself⟩
  · intro entry hentry hkey
    obtain ⟨⟨other, w⟩, hmem, rfl⟩ := List.mem_map.mp hentry
    obtain rfl := hname other hkey
    have hvalue : served.get? other = some w := Mapping.get?_of_mem hmem
    rw [h] at hvalue
    rw [Option.some.inj hvalue]

end Json

end ImageDiscovery
