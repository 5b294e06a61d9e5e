import ImageDiscovery.Proofs.Fetch.Run
import ImageDiscovery.Proofs.Identifier
import ImageDiscovery.Proofs.Tag.Merge
import ImageDiscovery.Resolution

/-!
# Phases — what a successful resolution has gone through

A resolution gives something only if each of its phases does: the tag, the walk for images and the walk
for keys.  So a result says what came out of each of them, and that is all it says.
-/

namespace ImageDiscovery

open Fetch

namespace App

theorem withLabels_labels (app merged : App) (h : merged.name = app.name) :
    app.withLabels merged.labels = .ok merged := by
  rw [withLabels, ← h, merged.make?_labels]
  rfl

theorem of_withLabels {app merged : App} {labels : Mapping Text}
    (h : app.withLabels labels = .ok merged) : merged.name = app.name ∧ merged.labels = labels :=
  name_of_make? (eq_ok_of_mapError_eq_ok h)

end App

namespace Client

variable {client : Client} {app : App} {tag : Text} {allowance : Allowance}

/-! ## The tag -/

/-- An app with the labels of a tag has the name that it had, and each label that it had. -/
theorem of_mergedApp {data : Option TagData} {merged : App} (h : mergedApp app data tag = .ok merged) :
    mergeTag app.labels data (some tag) = .ok merged.labels ∧ merged.name = app.name ∧
      ∀ label value, app.labels.get? label = some value → merged.labels.get? label = some value := by
  unfold mergedApp at h
  rcases exists_of_bind_eq_ok h with ⟨labels, hlabels, h⟩
  rcases App.of_withLabels h with ⟨hname, rfl⟩
  have hmerge := eq_ok_of_mapError_eq_ok hlabels
  exact ⟨hmerge, hname, fun label value hlabel => get?_of_mergeTag hmerge hlabel⟩

/-- With tag data, merging a tag into an app that has its labels changes nothing. -/
theorem mergedApp_of_mergedApp {data : TagData} {merged : App}
    (h : mergedApp app (some data) tag = .ok merged) :
    mergedApp merged (some data) tag = .ok merged := by
  rcases of_mergedApp h with ⟨hmerge, -, -⟩
  rw [mergedApp, mergeTag_of_mergeTag hmerge]
  exact App.withLabels_labels merged merged rfl

theorem outcome_findTagData_eq_ok_iff {attempts : List Attempt}
    {source : Option (Endpoint × TagData)} :
    (client.findTagData app tag allowance).outcome = .ok (attempts, source) ↔
      (∃ exhaustion, (client.walk app .tags allowance).outcome = .error (.expected exhaustion) ∧
        exhaustion.attempts = attempts ∧ source = none) ∨
      ∃ found data, (client.walk app .tags allowance).outcome = .ok found ∧
        (client.fetchTagData found.first allowance).outcome = .ok data ∧
        found.attempts = attempts ∧ source = some (found.first, data) := by
  rw [findTagData, Run.outcome_either_eq_ok_iff]
  apply or_congr
  · apply exists_congr
    intro exhaustion
    apply and_congr_right
    intro _
    rw [Run.outcome_told_bind]
    show Except.ok (exhaustion.attempts, none) = Except.ok (attempts, source) ↔ _
    simp [eq_comm]
  · apply exists_congr
    intro found
    rw [Run.outcome_bind_eq_ok_iff]
    constructor
    · rintro ⟨hwalk, data, hdata, h⟩
      cases h
      exact ⟨data, hwalk, hdata, rfl, rfl⟩
    · rintro ⟨data, hwalk, hdata, rfl, rfl⟩
      exact ⟨hwalk, data, hdata, rfl⟩

theorem resolveTag_of_untagged {tag : Option Text} (h : tag.filter (!·.isEmpty) = none) :
    client.resolveTag app tag allowance = pure ⟨app, none, []⟩ := by
  rw [resolveTag, h]

theorem outcome_resolveTag_eq_ok_iff {given : Option Text} {tagged : Tagged}
    (h : given.filter (!·.isEmpty) = some tag) :
    (client.resolveTag app given allowance).outcome = .ok tagged ↔
      ∃ attempts source, (client.findTagData app tag allowance).outcome = .ok (attempts, source) ∧
        mergedApp app (source.map Prod.snd) tag = .ok tagged.app ∧
        tagged.tagDocument = source.map Prod.fst ∧ tagged.attempts = [(.tags, attempts)] := by
  rw [resolveTag, h]
  dsimp only
  rw [Run.outcome_bind_eq_ok_iff]
  constructor
  · rintro ⟨⟨attempts, source⟩, hfind, h⟩
    rcases Run.outcome_bind_eq_ok_iff.mp h with ⟨merged, hmerged, h⟩
    cases h
    exact ⟨attempts, source, hfind, eq_ok_of_mapError_eq_ok hmerged, rfl, rfl⟩
  · rintro ⟨attempts, source, hfind, hmerged, hdocument, hattempts⟩
    refine ⟨(attempts, source), hfind, Run.outcome_bind_eq_ok_iff.mpr ⟨tagged.app, ?_, ?_⟩⟩
    · show (mergedApp app (source.map Prod.snd) tag).mapError Failure.expected = .ok tagged.app
      rw [hmerged]
      rfl
    · rcases tagged with ⟨merged, document, walks⟩
      cases hdocument
      cases hattempts
      rfl

/-! ## The walks after that -/

theorem outcome_resolve_eq_ok_iff {tag : Option Text} {r : Resolution} :
    (client.resolve app tag allowance).outcome = .ok r ↔
      ∃ tagged images attempts keys, (client.resolveTag app tag allowance).outcome = .ok tagged ∧
        (client.walk tagged.app .images allowance).outcome = .ok images ∧
        (client.findKeys tagged.app allowance).outcome = .ok (attempts, keys) ∧
        r = ⟨tagged.app, images.items, keys, tagged.tagDocument,
          tagged.attempts ++ [(.images, images.attempts), (.keys, attempts)]⟩ := by
  unfold resolve
  rw [Run.outcome_bind_eq_ok_iff]
  constructor
  · rintro ⟨tagged, htagged, h⟩
    rcases Run.outcome_bind_eq_ok_iff.mp h with ⟨images, himages, h⟩
    rcases Run.outcome_bind_eq_ok_iff.mp h with ⟨⟨attempts, keys⟩, hkeys, h⟩
    rw [Run.outcome_mapError_eq_ok_iff] at himages
    exact ⟨tagged, images, attempts, keys, htagged, himages, hkeys, (Except.ok.inj h).symm⟩
  · rintro ⟨tagged, images, attempts, keys, htagged, himages, hkeys, rfl⟩
    refine ⟨tagged, htagged, Run.outcome_bind_eq_ok_iff.mpr ⟨images, ?_, ?_⟩⟩
    · rw [Run.outcome_mapError_eq_ok_iff]
      exact himages
    · exact Run.outcome_bind_eq_ok_iff.mpr ⟨(attempts, keys), hkeys, rfl⟩

end Client

end ImageDiscovery
