import ImageDiscovery.Error
import ImageDiscovery.Proofs.Mapping
import ImageDiscovery.Proofs.Outcome

/-!
# Merging — what a tag adds to labels

The labels of a tag come behind those that are there, in the order of the tag data, unless their names
are taken.  So no label that was given is lost or changed, and merging a tag a second time adds nothing.
-/

namespace ImageDiscovery

namespace Mapping

variable {α : Type} {m n : Mapping α}

/-! ## Entries under those that are there -/

/-- Adds the entries whose keys are not there. -/
def addNew (m : Mapping α) (entries : List (Text × α)) : Mapping α :=
  entries.foldl (fun merged (key, value) => merged.insertNew key value) m

theorem insertNew_of_contains {key : Text} (h : m.contains key = true) (value : α) :
    m.insertNew key value = m := by
  rw [insertNew, if_pos h]

theorem toList_insertNew_of_not_contains {key : Text} (h : m.contains key = false) (value : α) :
    (m.insertNew key value).toList = m.toList ++ [(key, value)] := by
  have hkey : key ∉ m.toList.map Prod.fst := fun hmem => by
    rw [contains_iff.mpr hmem] at h
    exact nomatch h
  rw [insertNew, if_neg (by rw [h]; exact Bool.false_ne_true)]
  exact put_of_not_mem value hkey

theorem contains_insertNew (m : Mapping α) (key other : Text) (value : α) :
    (m.insertNew key value).contains other = (m.contains other || decide (other = key)) := by
  rw [contains, get?_insertNew, contains]
  by_cases h : other = key
  · simp [h]
  · simp [h]

/-- What is added comes behind what was there. -/
theorem toList_addNew (m : Mapping α) {entries : List (Text × α)}
    (h : (entries.map Prod.fst).Nodup) :
    (m.addNew entries).toList = m.toList ++ entries.filter fun entry => !m.contains entry.1 := by
  induction entries generalizing m with
  | nil => exact (List.append_nil _).symm
  | cons entry rest ih =>
    rcases entry with ⟨key, value⟩
    rw [List.map_cons, List.nodup_cons] at h
    show ((m.insertNew key value).addNew rest).toList = _
    rw [ih _ h.2]
    -- the key is not in the rest, so there it makes no difference that it is taken now
    have hrest : rest.filter (fun entry => !(m.insertNew key value).contains entry.1) =
        rest.filter fun entry => !m.contains entry.1 := by
      apply List.filter_congr
      intro other hother
      have hne : other.1 ≠ key := fun e => h.1 (List.mem_map.mpr ⟨other, hother, e⟩)
      rw [contains_insertNew, decide_eq_false hne, Bool.or_false]
    rw [hrest]
    cases hkey : m.contains key with
    | true => rw [insertNew_of_contains hkey, List.filter_cons_of_neg (by simp [hkey])]
    | false =>
      rw [toList_insertNew_of_not_contains hkey, List.filter_cons_of_pos (by simp [hkey]),
        List.append_assoc, List.singleton_append]

theorem lookup_append (key : Text) (xs ys : List (Text × α)) :
    lookup key (xs ++ ys) = (lookup key xs).or (lookup key ys) := by
  induction xs with
  | nil => rfl
  | cons entry rest ih =>
    rw [List.cons_append, lookup, lookup]
    split
    · rfl
    · exact ih

theorem get?_addNew_of_eq_some {entries : List (Text × α)} (h : (entries.map Prod.fst).Nodup)
    {key : Text} {value : α} (hkey : m.get? key = some value) :
    (m.addNew entries).get? key = some value := by
  have hlookup : lookup key m.toList = some value := hkey
  rw [get?, toList_addNew m h, lookup_append, hlookup]
  rfl

/-- What is added to the same entries in another order is the same. -/
theorem addNew_perm (h : m.toList.Perm n.toList) {entries : List (Text × α)}
    (hentries : (entries.map Prod.fst).Nodup) :
    (m.addNew entries).toList.Perm (n.addNew entries).toList := by
  have hcontains : ∀ key, m.contains key = n.contains key := fun key => by
    rw [contains, contains, get?_of_perm h]
  rw [toList_addNew m hentries, toList_addNew n hentries]
  simp only [hcontains]
  exact h.append_right _

theorem contains_addNew_of_mem {entries : List (Text × α)} (h : (entries.map Prod.fst).Nodup)
    {entry : Text × α} (hmem : entry ∈ entries) : (m.addNew entries).contains entry.1 = true := by
  rw [contains_iff, keys, toList_addNew m h, List.map_append, List.mem_append]
  by_cases hthere : m.contains entry.1 = true
  · exact .inl (contains_iff.mp hthere)
  · refine .inr (List.mem_map_of_mem (List.mem_filter.mpr ⟨hmem, ?_⟩))
    rw [Bool.not_eq_true] at hthere
    rw [hthere]
    rfl

/-- Entries that are there already are not added again. -/
theorem addNew_addNew (m : Mapping α) {entries : List (Text × α)}
    (h : (entries.map Prod.fst).Nodup) : (m.addNew entries).addNew entries = m.addNew entries := by
  apply toList_inj
  rw [toList_addNew _ h, List.filter_eq_nil_iff.mpr, List.append_nil]
  intro entry hentry
  rw [contains_addNew_of_mem h hentry]
  exact Bool.false_ne_true

end Mapping

/-! ## Tags -/

variable {labels merged : Mapping Text} {data : Option TagData} {tag : Text}

/-- Merging fails for labels with the same entries in another order too, or adds the same to both: the
    tag itself as the version, or the labels where its aliases end. -/
theorem mergeTag_of_perm {others : Mapping Text} (h : labels.toList.Perm others.toList)
    (data : Option TagData) (tag : Option Text) :
    (∃ problem, mergeTag labels data tag = .error problem ∧
        mergeTag others data tag = .error problem) ∨
      ∃ added : Mapping Text, mergeTag labels data tag = .ok (labels.addNew added.toList) ∧
        mergeTag others data tag = .ok (others.addNew added.toList) := by
  unfold mergeTag
  split
  · -- an empty tag
    exact .inr ⟨{}, rfl, rfl⟩
  · rename_i t _
    cases data with
    | none =>
      dsimp only
      rw [Mapping.get?_of_perm h]
      cases hversion : others.get? versionLabel with
      | some version => exact .inl ⟨.versionTaken t version, rfl, rfl⟩
      | none =>
        have hadd : ∀ m : Mapping Text, m.get? versionLabel = none →
            m.insert versionLabel t = m.addNew [(versionLabel, t)] := by
          intro m hfree
          show _ = m.insertNew versionLabel t
          rw [Mapping.insertNew, Mapping.contains, hfree, if_neg (by simp)]
        refine .inr ⟨⟨[(versionLabel, t)], by simp⟩, ?_, ?_⟩
        · exact congrArg _ (hadd labels ((Mapping.get?_of_perm h _).trans hversion))
        · exact congrArg _ (hadd others hversion)
    | some data =>
      dsimp only
      cases data.resolve t with
      | error chain => exact .inl ⟨.circular t chain, rfl, rfl⟩
      | ok found =>
        cases found with
        | none => exact .inr ⟨{}, rfl, rfl⟩
        | some found => exact .inr ⟨found, rfl, rfl⟩

theorem exists_addNew_of_mergeTag (h : mergeTag labels data (some tag) = .ok merged) :
    ∃ added : Mapping Text, merged = labels.addNew added.toList := by
  rcases mergeTag_of_perm (.refl labels.toList) data (some tag) with
    ⟨problem, hproblem, -⟩ | ⟨added, hadded, -⟩
  · exact nomatch hproblem.symm.trans h
  · exact ⟨added, Except.ok.inj (h.symm.trans hadded)⟩

/-- Labels that were given keep their values. -/
theorem get?_of_mergeTag (h : mergeTag labels data (some tag) = .ok merged) {label value : Text}
    (hlabel : labels.get? label = some value) : merged.get? label = some value := by
  rcases exists_addNew_of_mergeTag h with ⟨added, rfl⟩
  exact Mapping.get?_addNew_of_eq_some added.distinct hlabel

/-- With tag data, merging a tag again adds nothing. -/
theorem mergeTag_of_mergeTag {data : TagData}
    (h : mergeTag labels (some data) (some tag) = .ok merged) :
    mergeTag merged (some data) (some tag) = .ok merged := by
  unfold mergeTag at h ⊢
  split at h
  · rfl
  · dsimp only at h ⊢
    split at h
    · exact nomatch h
    · rfl
    · rename_i found _
      -- the same labels are found again, and they are all there
      have hmerged : labels.addNew found.toList = merged := Except.ok.inj h
      show Except.ok (merged.addNew found.toList) = .ok merged
      rw [← hmerged, Mapping.addNew_addNew labels found.distinct]

end ImageDiscovery
