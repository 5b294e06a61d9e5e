import ImageDiscovery.Proofs.Resolution.LabelOrder
import ImageDiscovery.Proofs.Resolution.Outcome
import ImageDiscovery.Proofs.Tag.Labels

/-!
# Valid labels — what apps are made of after merging

The labels of an app are valid, and so is each label set of tag data.  Hence labels that are merged from
both make an app again.  Without tag data it is the tag itself that becomes a label, and a tag may be too
long for one.  So this is the one way in which a resolution fails by labels.
-/

namespace ImageDiscovery

open Fetch

/-! ## Labels that are merged -/

namespace App

variable {app : App} {labels : Mapping Text}

theorem withLabels_of_valid (h : checkLabels labels = none) :
    app.withLabels labels = .ok ⟨app.name, labels, app.name_ok, h⟩ :=
  app.withLabels_labels ⟨app.name, labels, app.name_ok, h⟩ rfl

theorem withLabels_of_rejected {rejection : Rejection} (h : checkLabels labels = some rejection) :
    app.withLabels labels =
      .error (.malformed app.toText
        (Invalid.reasons ⟨"App", [⟨["labels"], .rejected rejection⟩]⟩)) := by
  rw [withLabels_eq]
  split
  · rename_i hnone
    exact nomatch h.symm.trans hnone
  · rename_i other hother
    rw [Option.some.inj (h.symm.trans hother)]

/-- The error for a tag that is too long to be a version. -/
def longVersion (app : App) (tag : Text) : Error :=
  .malformed app.toText
    (Invalid.reasons ⟨"App", [⟨["labels"], .rejected (.longValue versionLabel tag.length)⟩]⟩)

end App

/-- Each label set of tag data is valid. -/
theorem TagData.checkLabels_of_get? {data : TagData} {tag : Text} {found : Mapping Text}
    (h : data.labels.get? tag = some found) : checkLabels found = none :=
  List.findSome?_eq_none_iff.mp data.labels_ok _ (Mapping.mem_of_get? h)

theorem checkLabels_addNew_of_valid {labels added : Mapping Text} (hlabels : checkLabels labels = none)
    (hadded : checkLabels added = none) : checkLabels (labels.addNew added.toList) = none := by
  rw [checkLabels_addNew hlabels, List.findSome?_eq_none_iff]
  intro entry hentry
  exact checkLabels_eq_none_iff.mp hadded entry (List.mem_filter.mp hentry).1

variable {app : App} {tag : Text}

theorem checkLabel_version (tag : Text) :
    checkLabel versionLabel tag =
      if tag.length ≤ maxLabelLength then none else some (.longValue versionLabel tag.length) := by
  rw [checkLabel, if_neg (by decide), checkIdentifier, if_pos (by decide)]

theorem checkLabels_version {labels : Mapping Text} (hlabels : checkLabels labels = none)
    (hversion : labels.get? versionLabel = none) (tag : Text) :
    checkLabels (labels.addNew [(versionLabel, tag)]) =
      if tag.length ≤ maxLabelLength then none else some (.longValue versionLabel tag.length) := by
  have hthere : labels.toList.findSome? (fun entry => checkLabel entry.1 entry.2) = none := hlabels
  rw [checkLabels, toList_addNew_version hversion, List.findSome?_append, hthere, Option.none_or,
    List.findSome?_singleton]
  exact checkLabel_version tag

/-- What is merged with tag data is valid. -/
theorem checkLabels_of_mergeTag {data : TagData} {tag : Option Text} {merged : Mapping Text}
    (h : mergeTag app.labels (some data) tag = .ok merged) : checkLabels merged = none := by
  cases eq_or_exists_of_mergeTag h with
  | inl hsame =>
    rw [hsame]
    exact app.labels_ok
  | inr hadded =>
    have ⟨last, found, hfound, hmerged⟩ := hadded
    rw [hmerged]
    exact checkLabels_addNew_of_valid app.labels_ok (TagData.checkLabels_of_get? hfound)

/-- What is merged without tag data is valid, unless the tag is too long for a label. -/
theorem checkLabels_of_mergeTag_none {tag : Option Text} {merged : Mapping Text}
    (h : mergeTag app.labels none tag = .ok merged) :
    checkLabels merged = if (tag.getD []).length ≤ maxLabelLength then none
      else some (.longValue versionLabel (tag.getD []).length) := by
  cases untagged_or_exists_tag tag with
  | inl hnone =>
    -- nothing is added, and an empty tag is short enough
    have hlength : (tag.getD []).length ≤ maxLabelLength := by
      cases tag with
      | none => exact Nat.zero_le _
      | some t =>
        cases t with
        | nil => exact Nat.zero_le _
        | cons p rest => exact nomatch hnone
    rw [if_pos hlength, ← Except.ok.inj ((mergeTag_untagged hnone _ _).symm.trans h)]
    exact app.labels_ok
  | inr htag =>
    have ⟨t, ht, htag⟩ := htag
    rw [htag] at h ⊢
    cases hversion : app.labels.get? versionLabel with
    | some version => exact nomatch (mergeTag_of_version ht hversion).symm.trans h
    | none =>
      rw [← Except.ok.inj ((mergeTag_of_no_version ht hversion).symm.trans h)]
      exact checkLabels_version app.labels_ok hversion t

/-! ## Resolutions -/

namespace Client

variable {client : Client} {given : Option Text} {allowance : Allowance} {value reason : Text}

theorem mergedApp_eq (app : App) (data : Option TagData) (tag : Text) :
    mergedApp app data tag =
      (mergeTag app.labels data (some tag)).mapError Error.tag >>= app.withLabels := rfl

theorem mergedApp_some_ne_malformed (data : TagData) :
    mergedApp app (some data) tag ≠ .error (.malformed value reason) := by
  intro h
  rw [mergedApp_eq] at h
  cases of_bind_eq_error h with
  | inl hmerge =>
    -- merging itself fails as tags do
    cases hlabels : mergeTag app.labels (some data) (some tag) with
    | ok labels =>
      rw [hlabels] at hmerge
      exact nomatch hmerge
    | error problem =>
      rw [hlabels] at hmerge
      exact nomatch hmerge
  | inr hlabels =>
    have ⟨labels, hmerge, hmade⟩ := hlabels
    have hvalid := checkLabels_of_mergeTag (eq_ok_of_mapError_eq_ok hmerge)
    exact nomatch (App.withLabels_of_valid hvalid).symm.trans hmade

/-- Without tag data, a tag that is too long cannot be the version. -/
theorem mergedApp_none_eq_malformed_iff (h : tag ≠ []) :
    mergedApp app none tag = .error (.malformed value reason) ↔
      app.labels.get? versionLabel = none ∧ maxLabelLength < tag.length ∧
        app.longVersion tag = .malformed value reason := by
  rw [mergedApp_eq]
  cases hversion : app.labels.get? versionLabel with
  | some version =>
    rw [mergeTag_of_version h hversion]
    constructor
    · exact nofun
    · exact fun hnone => nomatch hnone.1
  | none =>
    rw [mergeTag_of_no_version h hversion]
    show app.withLabels _ = _ ↔ _
    have hcheck := checkLabels_version app.labels_ok hversion tag
    by_cases hlength : tag.length ≤ maxLabelLength
    · rw [if_pos hlength] at hcheck
      rw [App.withLabels_of_valid hcheck]
      constructor
      · exact nofun
      · exact fun hlong => absurd hlength (Nat.not_le_of_lt hlong.2.1)
    · rw [if_neg hlength] at hcheck
      rw [App.withLabels_of_rejected hcheck, Except.error.injEq]
      exact ⟨fun herror => ⟨rfl, Nat.lt_of_not_le hlength, herror⟩, fun hlong => hlong.2.2⟩

theorem taggedBy_eq_error_iff {attempts : List Attempt} {source : Option (Endpoint × TagData)}
    {e : Error} :
    taggedBy app tag attempts source = .error (.expected e) ↔
      mergedApp app (source.map Prod.snd) tag = .error e := by
  unfold taggedBy
  cases mergedApp app (source.map Prod.snd) tag <;> simp [Except.map, Except.mapError]

theorem findTagData_ne_malformed (tag : Text) :
    (client.findTagData app tag allowance).outcome ≠ .error (.expected (.malformed value reason)) := by
  intro h
  cases Run.of_outcome_either_eq_expected h with
  | inl hexhausted =>
    have ⟨_, _, he⟩ := hexhausted
    exact nomatch he
  | inr hfound =>
    have ⟨found, _, h⟩ := hfound
    cases Run.of_outcome_bind_eq_error h with
    | inl hdata =>
      cases of_fetchTagData_eq_expected hdata with
      | inl hfetch =>
        have ⟨_, he⟩ := hfetch
        exact nomatch he
      | inr hread =>
        have ⟨_, _, he⟩ := hread
        exact nomatch he
    | inr hdata =>
      have ⟨_, _, he⟩ := hdata
      exact nomatch he

/-- A walk for keys in vain is no failure. -/
theorem findKeys_ne_expected (e : Error) :
    (client.findKeys app allowance).outcome ≠ .error (.expected e) := by
  intro h
  cases Run.of_outcome_either_eq_expected h with
  | inl hnone =>
    have ⟨_, _, he⟩ := hnone
    exact nomatch he
  | inr hfound =>
    have ⟨_, _, he⟩ := hfound
    exact nomatch he

/-- Walks fail as walks do, so labels are refused while the tag is settled or not at all. -/
theorem resolve_eq_malformed_iff :
    (client.resolve app given allowance).outcome = .error (.expected (.malformed value reason)) ↔
      (client.resolveTag app given allowance).outcome =
        .error (.expected (.malformed value reason)) := by
  constructor
  · intro h
    cases Run.of_outcome_bind_eq_error h with
    | inl htag => exact htag
    | inr htagged =>
      have ⟨tagged, _, h⟩ := htagged
      cases Run.of_outcome_bind_eq_error h with
      | inl himages =>
        -- a walk for images is exhausted, whatever the labels are
        have ⟨_, _, he⟩ := Run.of_outcome_mapError_eq_expected himages
        exact nomatch he
      | inr hfound =>
        have ⟨images, _, h⟩ := hfound
        cases Run.of_outcome_bind_eq_error h with
        | inl hkeys => exact absurd hkeys (findKeys_ne_expected _)
        | inr hkeys =>
          have ⟨_, _, he⟩ := hkeys
          exact nomatch he
  · exact Run.outcome_bind_of_error

theorem resolveTag_eq_malformed_iff :
    (client.resolveTag app given allowance).outcome =
        .error (.expected (.malformed value reason)) ↔
      ∃ tag exhaustion, given.filter (!·.isEmpty) = some tag ∧
        (client.walk app .tags allowance).outcome = .error (.expected exhaustion) ∧
        app.labels.get? versionLabel = none ∧ maxLabelLength < tag.length ∧
        app.longVersion tag = .malformed value reason := by
  cases untagged_or_exists_tag given with
  | inl hnone =>
    rw [resolveTag_of_untagged hnone, hnone]
    simp
  | inr htag =>
    have ⟨t, ht, htag⟩ := htag
    have hgiven : given.filter (!·.isEmpty) = some t := htag ▸ filter_isEmpty_of_ne_nil ht
    constructor
    · intro h
      rw [(resolveTag_of_tagged client app allowance hgiven).2] at h
      cases of_bind_eq_error h with
      | inl hfind => exact absurd hfind (findTagData_ne_malformed t)
      | inr hfind =>
        have ⟨⟨attempts, source⟩, hfind, htagged⟩ := hfind
        have hmerged := taggedBy_eq_error_iff.mp htagged
        cases outcome_findTagData_eq_ok_iff.mp hfind with
        | inl hexhausted =>
          have ⟨exhaustion, hwalk, _, hsource⟩ := hexhausted
          rw [hsource] at hmerged
          exact ⟨t, exhaustion, hgiven, hwalk, (mergedApp_none_eq_malformed_iff ht).mp hmerged⟩
        | inr hfound =>
          -- with tag data, all labels are valid
          have ⟨_, data, _, _, _, hsource⟩ := hfound
          rw [hsource] at hmerged
          exact absurd hmerged (mergedApp_some_ne_malformed data)
    · intro ⟨tag, exhaustion, hsome, hwalk, hlong⟩
      cases hgiven.symm.trans hsome
      rw [(settlesTag hgiven).exhausted exhaustion hwalk, taggedBy_eq_error_iff]
      exact (mergedApp_none_eq_malformed_iff ht).mpr hlong

end Client

/-! ## Every case -/

/-- Which labels make an app again when a tag is merged into those of an app. -/
structure StaysValid (app : App) : Prop where
  found : ∀ data tag merged, mergeTag app.labels (some data) tag = .ok merged →
    ∃ made, app.withLabels merged = .ok made ∧ made.name = app.name ∧ made.labels = merged
  version : ∀ tag merged, mergeTag app.labels none tag = .ok merged →
    (tag.getD []).length ≤ maxLabelLength →
      ∃ made, app.withLabels merged = .ok made ∧ made.name = app.name ∧ made.labels = merged
  longVersion : ∀ tag merged, mergeTag app.labels none tag = .ok merged →
    maxLabelLength < (tag.getD []).length →
      app.withLabels merged = .error (app.longVersion (tag.getD []))
  /-- Where a document was found for a tag, no resolution fails by the labels that it gives. -/
  documented : ∀ (client : Client) given allowance found,
    (client.walk app .tags allowance).outcome = .ok found → ∀ value reason,
      (client.resolve app given allowance).outcome ≠ .error (.expected (.malformed value reason))
  malformed : ∀ (client : Client) given allowance value reason,
    (client.resolve app given allowance).outcome = .error (.expected (.malformed value reason)) ↔
      ∃ tag exhaustion, given.filter (!·.isEmpty) = some tag ∧
        (client.walk app .tags allowance).outcome = .error (.expected exhaustion) ∧
        app.labels.get? versionLabel = none ∧ maxLabelLength < tag.length ∧
        app.longVersion tag = .malformed value reason

/-- **Valid labels.**  With tag data, whatever is merged into the labels of an app makes an app of the same
    name.  Without it, that fails exactly for tags of more than 255 code points, and a resolution is
    refused for its labels in that case only. -/
theorem staysValid (app : App) : StaysValid app where
  found := by
    intro data tag merged hmerge
    exact ⟨_, App.withLabels_of_valid (checkLabels_of_mergeTag hmerge), rfl, rfl⟩
  version := by
    intro tag merged hmerge hlength
    have hcheck := checkLabels_of_mergeTag_none hmerge
    rw [if_pos hlength] at hcheck
    exact ⟨_, App.withLabels_of_valid hcheck, rfl, rfl⟩
  longVersion := by
    intro tag merged hmerge hlength
    have hcheck := checkLabels_of_mergeTag_none hmerge
    rw [if_neg (Nat.not_le_of_lt hlength)] at hcheck
    exact App.withLabels_of_rejected hcheck
  documented := by
    intro client given allowance found hwalk value reason h
    have ⟨_, _, _, hexhausted, _⟩ :=
      Client.resolveTag_eq_malformed_iff.mp (Client.resolve_eq_malformed_iff.mp h)
    exact nomatch hwalk.symm.trans hexhausted
  malformed := by
    intro client given allowance value reason
    rw [Client.resolve_eq_malformed_iff, Client.resolveTag_eq_malformed_iff]

/-- A tag that is longer by one code point than a label may be. -/
theorem staysValid_long :
    let app : App := ⟨"a", {}, by decide, by decide⟩
    let tag : Text := List.replicate 256 (.char 'x')
    ∃ merged, mergeTag app.labels none (some tag) = .ok merged ∧
      app.withLabels merged = .error (app.longVersion tag) := by
  intro app tag
  have hlength : tag.length = 256 := List.length_replicate
  have htag : tag ≠ [] := List.ne_nil_of_length_eq_add_one hlength
  have hmerge := mergeTag_of_no_version htag (show app.labels.get? versionLabel = none from rfl)
  have hlong : maxLabelLength < ((some tag).getD []).length := by
    show 255 < tag.length
    omega
  exact ⟨_, hmerge, (staysValid app).longVersion (some tag) _ hmerge hlong⟩

/-- A half of a surrogate pair is no hindrance. -/
theorem exists_broken_version :
    ¬ ∀ (app : App) (tag : Text) (merged : Mapping Text),
      mergeTag app.labels none (some tag) = .ok merged →
        ((∃ value reason, app.withLabels merged = .error (.malformed value reason)) ↔
          maxLabelLength < tag.length ∨ ¬ tag.Encodable) := by
  intro h
  let app : App := ⟨"a", {}, by decide, by decide⟩
  let merged : Mapping Text := ⟨[(versionLabel, [.lone 0])], by decide⟩
  have hmerge : mergeTag app.labels none (some [.lone 0]) = .ok merged := by decide
  have ⟨_, _, hrefused⟩ := (h app [.lone 0] merged hmerge).mpr (.inr (by decide))
  have hvalid : checkLabels merged = none := by decide
  exact nomatch (App.withLabels_of_valid hvalid).symm.trans hrefused

end ImageDiscovery
