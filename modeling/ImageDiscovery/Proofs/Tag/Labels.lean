import ImageDiscovery.Proofs.Tag.Aliases
import ImageDiscovery.Proofs.Tag.InPlace

/-!
# Merged labels — what a tag adds in each case

An empty tag or none adds nothing.  Without tag data a tag is the version, if there is none yet.  With
tag data the labels of the tag where the aliases end are added behind the ones that are there, and only
a circle of aliases makes that fail.
-/

namespace ImageDiscovery

variable {labels : Mapping Text} {data : TagData} {tag last : Text}

/-- A tag is given, or there is none. -/
theorem untagged_or_exists_tag (tag : Option Text) :
    tag.filter (!·.isEmpty) = none ∨ ∃ t, t ≠ [] ∧ tag = some t := by
  cases tag with
  | none => exact .inl rfl
  | some t =>
    cases t with
    | nil => exact .inl rfl
    | cons p rest => exact .inr ⟨_, List.cons_ne_nil p rest, rfl⟩

theorem filter_isEmpty_of_ne_nil (h : tag ≠ []) : (some tag).filter (!·.isEmpty) = some tag := by
  cases tag with
  | nil => exact absurd rfl h
  | cons p rest => rfl

theorem mergeTag_untagged {tag : Option Text} (h : tag.filter (!·.isEmpty) = none)
    (labels : Mapping Text) (data : Option TagData) : mergeTag labels data tag = .ok labels := by
  rw [mergeTag, h]

/-! ## Without tag data -/

theorem mergeTag_of_version (h : tag ≠ []) {version : Text}
    (hversion : labels.get? versionLabel = some version) :
    mergeTag labels none (some tag) = .error (.versionTaken tag version) := by
  rw [mergeTag, filter_isEmpty_of_ne_nil h]
  dsimp only
  rw [hversion]

theorem mergeTag_of_no_version (h : tag ≠ []) (hversion : labels.get? versionLabel = none) :
    mergeTag labels none (some tag) = .ok (labels.addNew [(versionLabel, tag)]) := by
  rw [mergeTag, filter_isEmpty_of_ne_nil h]
  dsimp only
  rw [hversion]
  show _ = Except.ok (labels.insertNew versionLabel tag)
  rw [Mapping.insertNew, Mapping.contains, hversion, if_neg (by simp)]

theorem toList_addNew_version (hversion : labels.get? versionLabel = none) (tag : Text) :
    (labels.addNew [(versionLabel, tag)]).toList = labels.toList ++ [(versionLabel, tag)] := by
  have hcontains : labels.contains versionLabel = false := by
    rw [Mapping.contains, hversion]
    rfl
  rw [Mapping.toList_addNew labels (by simp), List.filter_cons_of_pos (by simp [hcontains]),
    List.filter_nil]

/-! ## With tag data -/

theorem mergeTag_of_resolve_error (h : tag ≠ []) {chain : List Text}
    (hchain : data.resolve tag = .error chain) :
    mergeTag labels (some data) (some tag) = .error (.circular tag chain) := by
  rw [mergeTag, filter_isEmpty_of_ne_nil h]
  dsimp only
  rw [hchain]

/-- The labels of the last tag are added, if it has any. -/
theorem mergeTag_of_endsAt (h : tag ≠ []) (hlast : TagData.EndsAt data.aliases tag last) :
    mergeTag labels (some data) (some tag) =
      .ok (labels.addNew ((data.labels.get? last).getD {}).toList) := by
  rw [mergeTag, filter_isEmpty_of_ne_nil h]
  dsimp only
  rw [TagData.resolve_of_endsAt hlast]
  cases data.labels.get? last <;> rfl

/-- Merging fails by a circle of aliases and by nothing else. -/
theorem isCircle_of_mergeTag {tag : Option Text} {problem : TagProblem}
    (h : mergeTag labels (some data) tag = .error problem) :
    ∃ t chain, tag = some t ∧ problem = .circular t chain ∧
      TagData.IsCircle data.aliases t chain := by
  cases untagged_or_exists_tag tag with
  | inl hnone => exact nomatch (mergeTag_untagged hnone labels (some data)).symm.trans h
  | inr htag =>
    have ⟨t, ht, htag⟩ := htag
    rw [htag] at h
    cases data.exists_endsAt_or_resolve_eq_error t with
    | inl hlast =>
      have ⟨last, hlast⟩ := hlast
      exact nomatch (mergeTag_of_endsAt ht hlast).symm.trans h
    | inr hchain =>
      have ⟨chain, hchain⟩ := hchain
      have hproblem := Except.error.inj ((mergeTag_of_resolve_error ht hchain).symm.trans h)
      exact ⟨t, chain, htag, hproblem.symm, TagData.isCircle_of_resolve hchain⟩

/-- Merging adds nothing, or one label set of the tag data. -/
theorem eq_or_exists_of_mergeTag {tag : Option Text} {merged : Mapping Text}
    (h : mergeTag labels (some data) tag = .ok merged) :
    merged = labels ∨ ∃ last found, data.labels.get? last = some found ∧
      merged = labels.addNew found.toList := by
  cases untagged_or_exists_tag tag with
  | inl hnone =>
    exact .inl (Except.ok.inj ((mergeTag_untagged hnone labels (some data)).symm.trans h)).symm
  | inr htag =>
    have ⟨t, ht, htag⟩ := htag
    rw [htag] at h
    cases data.exists_endsAt_or_resolve_eq_error t with
    | inl hlast =>
      have ⟨last, hlast⟩ := hlast
      have hmerged := Except.ok.inj ((mergeTag_of_endsAt ht hlast).symm.trans h)
      cases hfound : data.labels.get? last with
      | none =>
        rw [hfound] at hmerged
        exact .inl hmerged.symm
      | some found =>
        rw [hfound] at hmerged
        exact .inr ⟨last, found, hfound, hmerged.symm⟩
    | inr hchain =>
      have ⟨chain, hchain⟩ := hchain
      exact nomatch (mergeTag_of_resolve_error ht hchain).symm.trans h

theorem prefix_of_mergeTag {data : Option TagData} {tag : Option Text} {merged : Mapping Text}
    (h : mergeTag labels data tag = .ok merged) : labels.toList <+: merged.toList := by
  cases tag with
  | none =>
    have hsame := Except.ok.inj ((mergeTag_untagged rfl labels data).symm.trans h)
    exact hsame ▸ List.prefix_rfl
  | some tag =>
    have ⟨added, hmerged⟩ := exists_addNew_of_mergeTag h
    rw [hmerged, Mapping.toList_addNew labels added.distinct]
    exact List.prefix_append _ _

theorem mergeTag_again {tag : Option Text} {merged : Mapping Text}
    (h : mergeTag labels (some data) tag = .ok merged) :
    mergeTag merged (some data) tag = .ok merged := by
  cases tag with
  | none => exact mergeTag_untagged rfl merged (some data)
  | some tag => exact mergeTag_of_mergeTag h

/-! ## Every case -/

/-- What merging makes of labels, by the tag and the tag data. -/
structure MergesTags (labels : Mapping Text) : Prop where
  /-- Labels that are there keep their values and their places. -/
  keeps : ∀ data tag merged, mergeTag labels data tag = .ok merged → labels.toList <+: merged.toList
  untagged : ∀ data, mergeTag labels data none = .ok labels ∧ mergeTag labels data (some []) = .ok labels
  taken : ∀ tag ≠ [], ∀ version, labels.get? versionLabel = some version →
    mergeTag labels none (some tag) = .error (.versionTaken tag version)
  version : ∀ tag ≠ [], labels.get? versionLabel = none → ∃ merged,
    mergeTag labels none (some tag) = .ok merged ∧
      merged.toList = labels.toList ++ [(versionLabel, tag)]
  /-- Whether there is a version makes no difference with tag data. -/
  circular : ∀ data, ∀ tag ≠ [],
    (∃ problem, mergeTag labels (some data) (some tag) = .error problem) ↔
      ¬ ∃ last, TagData.EndsAt data.aliases tag last
  circle : ∀ data tag problem, mergeTag labels (some data) (some tag) = .error problem →
    ∃ chain, problem = .circular tag chain ∧ TagData.IsCircle data.aliases tag chain
  added : ∀ data, ∀ tag ≠ [], ∀ last, TagData.EndsAt data.aliases tag last → ∃ merged,
    mergeTag labels (some data) (some tag) = .ok merged ∧
      merged.toList = labels.toList ++
        ((data.labels.get? last).getD {}).toList.filter fun entry => !labels.contains entry.1
  unlabelled : ∀ data tag last, TagData.EndsAt data.aliases tag last → last ∉ data.labels.keys →
    mergeTag labels (some data) (some tag) = .ok labels
  again : ∀ data tag merged, mergeTag labels (some data) tag = .ok merged →
    mergeTag merged (some data) tag = .ok merged
  /-- Tables that are changed in their places stay as they are, also if merging fails; the result is
      a new table. -/
  inPlace : ∀ (store : InPlace.Store) place stored data tag,
    store[place]? = some (.texts labels) → Option.Rel (InPlace.Holds store) stored data →
      ∃ added, (InPlace.mergeTag place stored tag).outcome store =
        match mergeTag labels data tag with
        | .ok merged => (.ok store.length, store ++ .texts merged :: added)
        | .error problem => (.error problem, store ++ added)

/-- **Merging.**  Labels that are given stay first and as they are, and what a tag adds comes behind them:
    the version without tag data, the labels that the aliases lead to with it, and nothing else. -/
theorem mergeTag_cases (labels : Mapping Text) : MergesTags labels where
  keeps := fun _ _ _ => prefix_of_mergeTag
  untagged := by
    have hempty : (some ([] : Text)).filter (!·.isEmpty) = none := rfl
    exact fun data => ⟨mergeTag_untagged rfl labels data, mergeTag_untagged hempty labels data⟩
  taken := fun _ htag _ => mergeTag_of_version htag
  version := by
    intro tag htag hversion
    exact ⟨_, mergeTag_of_no_version htag hversion, toList_addNew_version hversion tag⟩
  circular := by
    intro data tag htag
    rw [← data.exists_resolve_eq_error_iff tag]
    constructor
    · intro ⟨problem, hproblem⟩
      have ⟨_, chain, rfl, _, hcircle⟩ := isCircle_of_mergeTag hproblem
      exact (data.exists_resolve_eq_error_iff tag).mpr hcircle.not_endsAt
    · intro ⟨chain, hchain⟩
      exact ⟨_, mergeTag_of_resolve_error htag hchain⟩
  circle := by
    intro data tag problem hproblem
    have ⟨_, chain, htag, hchain, hcircle⟩ := isCircle_of_mergeTag hproblem
    cases htag
    exact ⟨chain, hchain, hcircle⟩
  added := by
    intro data tag htag last hlast
    exact ⟨_, mergeTag_of_endsAt htag hlast, Mapping.toList_addNew labels (Mapping.distinct _)⟩
  unlabelled := by
    intro data tag last hlast hkeys
    have hnone : data.labels.get? last = none := Mapping.lookup_eq_none_iff.mpr hkeys
    cases tag with
    | nil => rfl
    | cons p rest =>
      rw [mergeTag_of_endsAt (List.cons_ne_nil p rest) hlast, hnone]
      rfl
  again := fun _ _ _ => mergeTag_again
  inPlace := fun _ _ _ _ tag hlabels hdata => InPlace.outcome_mergeTag hlabels hdata tag

/-- Of two labels that are found one is there already, and the tables are the first four of the store. -/
theorem mergeTag_cases_latest :
    let labels : Mapping Text := ⟨[("os", "linux")], by decide⟩
    let found : Mapping Text := ⟨[("os", "darwin"), ("version", "2.0")], by decide⟩
    let aliases : Mapping Text := ⟨[("latest", "2")], by decide⟩
    let store : InPlace.Store :=
      [.texts labels, .texts aliases, .places ⟨[("2", 3)], by decide⟩, .texts found]
    ∃ added, (InPlace.mergeTag 0 (some ⟨1, 2⟩) (some "latest")).outcome store =
      (.ok 4, store ++ .texts ⟨[("os", "linux"), ("version", "2.0")], by decide⟩ :: added) := by
  intro labels found aliases store
  let data : TagData := ⟨aliases, ⟨[("2", found)], by decide⟩, by decide⟩
  have hholds : InPlace.Holds store ⟨1, 2⟩ data := by
    refine ⟨rfl, _, rfl, fun tag => ?_⟩
    show Option.Rel _ (if _ = tag then some 3 else none) (if _ = tag then some found else none)
    split
    · exact .some rfl
    · exact .none
  have ⟨added, hmerge⟩ := (mergeTag_cases labels).inPlace store 0 (some ⟨1, 2⟩) (some data)
    (some "latest") rfl (.some hholds)
  have hmerged : mergeTag labels (some data) (some "latest") =
      .ok ⟨[("os", "linux"), ("version", "2.0")], by decide⟩ := by decide
  rw [hmerged] at hmerge
  exact ⟨added, hmerge⟩

end ImageDiscovery
