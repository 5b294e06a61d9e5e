import ImageDiscovery.Proofs.Resolution.Phases
import ImageDiscovery.Site

/-!
# Pinned apps — resolving what was resolved

Whatever a tag stands for is written into the labels of an app when it is resolved.  The app that comes
out is pinned by them: it leads to the same images and keys without the tag, and with the tag too if
that is resolved by tag data.  Servers are asked anew each time, and nothing is kept in between.
-/

namespace ImageDiscovery

open Fetch

/-! ## What walks see of an app -/

theorem Declaration.tagDocuments_congr (declarations : List Declaration) {a b : App}
    (h : a.name = b.name) : tagDocuments declarations a = tagDocuments declarations b := by
  unfold tagDocuments applicable
  rw [h]

/-- A walk sees the name of its app, and what pages declare for it. -/
theorem Walk.visit_congr (source : PageSource) {a b : App} {kind : Kind} (hname : a.name = b.name)
    (hitems : ∀ declarations, Declaration.items declarations a kind =
      Declaration.items declarations b kind) (attempts : List Attempt) (places : List Text) :
    visit source a kind attempts places = visit source b kind attempts places := by
  -- of an app, records read the name only
  have hrecord : ∀ severity event fields,
      record a kind severity event fields = record b kind severity event fields := by
    intro severity event fields
    rw [record, record, hname]
  induction places generalizing attempts with
  | nil => rw [visit, visit, exhaustedRecord, exhaustedRecord, hrecord, hname]
  | cons place rest ih =>
    rw [visit, visit]
    simp only [failedRecord, unmatchedRecord, satisfiedRecord, hrecord, hitems, ih]

namespace Client

variable {client : Client} {app : App} {allowance : Allowance}

theorem walk_congr {a b : App} {kind : Kind} (hname : a.name = b.name)
    (hitems : ∀ declarations, Declaration.items declarations a kind =
      Declaration.items declarations b kind) :
    client.walk a kind allowance = client.walk b kind allowance := by
  have hplaces : a.namespaces = b.namespaces := by rw [App.namespaces, App.namespaces, hname]
  unfold walk ImageDiscovery.walk
  rw [hplaces]
  exact Walk.visit_congr _ hname hitems _ _

/-- Walks for tag data do not see labels. -/
theorem walk_tags_congr {a b : App} (h : a.name = b.name) :
    client.walk a .tags allowance = client.walk b .tags allowance :=
  walk_congr h fun declarations => Declaration.tagDocuments_congr declarations h

/-! ## Resolving again -/

/-- The tag of an app that was pinned by tag data is resolved to that app. -/
theorem resolveTag_of_resolveTag {tag : Option Text} {tagged : Tagged}
    (h : (client.resolveTag app tag allowance).outcome = .ok tagged)
    (hdocument : tagged.tagDocument ≠ none) :
    (client.resolveTag tagged.app tag allowance).outcome = .ok tagged := by
  cases htag : tag.filter (!·.isEmpty) with
  | none =>
    rw [resolveTag_of_untagged htag] at h
    cases h
    exact absurd rfl hdocument
  | some t =>
    rcases (outcome_resolveTag_eq_ok_iff htag).mp h with
      ⟨attempts, source, hfind, hmerged, hplace, hattempts⟩
    rcases outcome_findTagData_eq_ok_iff.mp hfind with
      ⟨exhaustion, -, -, hsource⟩ | ⟨found, data, hwalk, hdata, hpassed, hsource⟩
    · -- without tag data there is no document
      rw [hplace, hsource] at hdocument
      exact absurd rfl hdocument
    · rw [hsource] at hmerged hplace
      have hname : tagged.app.name = app.name := (of_mergedApp hmerged).2.1
      have hfindAgain : (client.findTagData tagged.app t allowance).outcome =
          .ok (attempts, some (found.first, data)) := by
        rw [outcome_findTagData_eq_ok_iff, walk_tags_congr hname]
        exact .inr ⟨found, data, hwalk, hdata, hpassed, rfl⟩
      have hmergedAgain := mergedApp_of_mergedApp hmerged
      exact (outcome_resolveTag_eq_ok_iff htag).mpr
        ⟨attempts, _, hfindAgain, hmergedAgain, hplace, hattempts⟩

theorem attempts_of_resolveTag {tag : Option Text} {tagged : Tagged}
    (h : (client.resolveTag app tag allowance).outcome = .ok tagged) :
    ∀ walk ∈ tagged.attempts, walk.1 = .tags := by
  cases htag : tag.filter (!·.isEmpty) with
  | none =>
    rw [resolveTag_of_untagged htag] at h
    cases h
    exact nofun
  | some t =>
    rcases (outcome_resolveTag_eq_ok_iff htag).mp h with ⟨attempts, -, -, -, -, hattempts⟩
    simp [hattempts]

/-- **Pinning.**  The app that a resolution gives leads to the same images and keys without a tag, and
    the walks for them pass the same places.  If the tag was resolved by tag data, resolving it for that
    app gives the same again in all respects. -/
theorem resolve_of_resolve {tag : Option Text} {r : Resolution}
    (h : (client.resolve app tag allowance).outcome = .ok r) :
    (client.resolve r.app none allowance).outcome =
        .ok { r with tagDocument := none, attempts := r.attempts.filter fun walk => walk.1 ≠ .tags } ∧
      (r.tagDocument ≠ none → (client.resolve r.app tag allowance).outcome = .ok r) := by
  rcases outcome_resolve_eq_ok_iff.mp h with
    ⟨tagged, images, attempts, keys, htagged, himages, hkeys, rfl⟩
  constructor
  · have huntagged : (client.resolveTag tagged.app none allowance).outcome =
        .ok ⟨tagged.app, none, []⟩ := rfl
    rw [outcome_resolve_eq_ok_iff]
    refine ⟨_, images, attempts, keys, huntagged, himages, hkeys, ?_⟩
    -- only the attempts of the tag's own walk are gone
    have hgone : (tagged.attempts ++ [(Kind.images, images.attempts), (Kind.keys, attempts)]).filter
        (fun walk => walk.1 ≠ .tags) = [(Kind.images, images.attempts), (Kind.keys, attempts)] := by
      rw [List.filter_append, List.filter_eq_nil_iff.mpr, List.nil_append]
      · rfl
      · intro walk hwalk
        simp [attempts_of_resolveTag htagged walk hwalk]
    simp only [hgone, List.nil_append]
  · intro hdocument
    have hagain := resolveTag_of_resolveTag htagged hdocument
    rw [outcome_resolve_eq_ok_iff]
    exact ⟨tagged, images, attempts, keys, hagain, himages, hkeys, rfl⟩

/-- A site with tag data, by which `latest` is version 2. -/
def withTagData : Site :=
  (({} : Site).addDeclarations "example.com/a" "https"
    [⟨"ac-discovery-tags", "example.com", "https://example.com/t.{ext}"⟩,
      ⟨"ac-discovery", "example.com", "https://example.com/i-{version}.{ext}"⟩]).addDocument
    "example.com/t.aci" "https" (.object [("aliases", .object [("latest", .text "2.x")]),
      ("labels", .object [("2.x", .object [("version", .text "2")])])])

theorem resolve_of_resolve_latest :
    let client : Client := { config := { dialTimeout := defaultDialTimeout },
                             server := withTagData.reply }
    let app : App := ⟨"example.com/a", {}, by decide, by decide⟩
    ∃ r, (client.resolve app (some "latest") .none).outcome = .ok r ∧ r.tagDocument ≠ none ∧
      (client.resolve r.app none .none).outcome =
        .ok { r with tagDocument := none, attempts := r.attempts.filter fun walk => walk.1 ≠ .tags } ∧
      (client.resolve r.app (some "latest") .none).outcome = .ok r := by
  intro client app
  have hresolve : ((client.resolve app (some "latest") .none).outcome.toOption.any fun r =>
      r.tagDocument.isSome) = true := by
    decide +kernel
  rcases exists_of_toOption_any hresolve with ⟨r, hr, hdocument⟩
  have hdocument : r.tagDocument ≠ none := by
    rw [← Option.isSome_iff_ne_none]
    exact hdocument
  have hagain := resolve_of_resolve hr
  exact ⟨r, hr, hdocument, hagain.1, hagain.2 hdocument⟩

end Client

end ImageDiscovery
