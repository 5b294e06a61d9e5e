import ImageDiscovery.Proofs.App.Notation
import ImageDiscovery.Proofs.Resolution.Pinned

/-!
# Label order — labels in whatever order lead to the same

The labels of an app are a table, and apps are the same if their tables have the same entries.  What is
merged into two such tables is the same, what is rendered from them is the same, and what is wrong with
them is told in the same words.  So two resolutions of the same app ask for the same and end alike.
-/

namespace ImageDiscovery

open Fetch

/-! ## Runs that agree -/

/-- The same failure, or values that are related. -/
inductive Agreement {ε α : Type} (values : α → α → Prop) : Except ε α → Except ε α → Prop where
  | ok {a b : α} (h : values a b) : Agreement values (.ok a) (.ok b)
  | error (e : ε) : Agreement values (.error e) (.error e)

theorem Agreement.mapError {ε ε' α : Type} {values : α → α → Prop} {x y : Except ε α}
    (h : Agreement values x y) (f : ε → ε') : Agreement values (x.mapError f) (y.mapError f) := by
  cases h with
  | ok hab => exact .ok hab
  | error e => exact .error (f e)

namespace Run

variable {ε α β : Type} {values : α → α → Prop} {values' : β → β → Prop}

/-- Two runs that ask for the same, in the same order, and end alike. -/
structure Agree (values : α → α → Prop) (x y : Run ε α) : Prop where
  requests : x.requests = y.requests
  outcome : Agreement values x.outcome y.outcome

theorem agree_of_eq {x y : Run ε α} (h : x = y) : Agree Eq x y := by
  subst h
  refine ⟨rfl, ?_⟩
  cases x.outcome with
  | ok a => exact .ok rfl
  | error failure => exact .error failure

theorem Agree.bind {x y : Run ε α} {f g : α → Run ε β} (h : Agree values x y)
    (hfg : ∀ a b, values a b → Agree values' (f a) (g b)) : Agree values' (x >>= f) (y >>= g) := by
  obtain ⟨outcome, trace⟩ := x
  obtain ⟨outcome', trace'⟩ := y
  obtain ⟨hrequests, houtcome⟩ := h
  cases houtcome with
  | ok hab =>
    have hnext := hfg _ _ hab
    refine ⟨?_, hnext.outcome⟩
    rw [requests_bind_of_ok rfl, requests_bind_of_ok rfl, hrequests, hnext.requests]
  | error failure => exact ⟨hrequests, .error failure⟩

end Run

/-! ## Merging -/

/-- What is added to valid labels is all that can be wrong with them then. -/
theorem checkLabels_addNew {labels added : Mapping Text} (h : checkLabels labels = none) :
    checkLabels (labels.addNew added.toList) =
      (added.toList.filter fun entry => !labels.contains entry.1).findSome? fun entry =>
        checkLabel entry.1 entry.2 := by
  have hthere : labels.toList.findSome? (fun entry => checkLabel entry.1 entry.2) = none := h
  rw [checkLabels, Mapping.toList_addNew labels added.distinct, List.findSome?_append, hthere]
  rfl

theorem checkLabels_addNew_of_perm {labels others added : Mapping Text}
    (hlabels : checkLabels labels = none) (hothers : checkLabels others = none)
    (h : labels.toList.Perm others.toList) :
    checkLabels (labels.addNew added.toList) = checkLabels (others.addNew added.toList) := by
  have hcontains : ∀ key, labels.contains key = others.contains key := fun key => by
    rw [Mapping.contains, Mapping.contains, Mapping.get?_of_perm h]
  rw [checkLabels_addNew hlabels, checkLabels_addNew hothers]
  simp only [hcontains]

namespace App

variable {a b : App}

/-- With a valid name, labels are all that an app is refused for. -/
theorem withLabels_eq (app : App) (labels : Mapping Text) :
    app.withLabels labels =
      match h : checkLabels labels with
      | none => .ok ⟨app.name, labels, app.name_ok, h⟩
      | some rejection => .error (.malformed app.toText
          (Invalid.reasons ⟨"App", [⟨["labels"], .rejected rejection⟩]⟩)) := by
  unfold withLabels make?
  split
  · rename_i hlabels
    split
    · rfl
    · rename_i hbad
      exact nomatch hlabels.symm.trans hbad
  · rename_i hbad
    split
    · rename_i hlabels
      exact absurd hlabels (hbad app.name_ok)
    · rename_i hlabels
      rw [app.name_ok, hlabels]
      rfl

/-- The same labels are refused in the same words, or make the same app. -/
theorem withLabels_of_same (h : a.same b = true) {labels others : Mapping Text}
    (hperm : labels.toList.Perm others.toList) (hcheck : checkLabels labels = checkLabels others) :
    Agreement (fun x y : App => x.same y = true) (a.withLabels labels) (b.withLabels others) := by
  rw [withLabels_eq, withLabels_eq, toText_eq_of_same h]
  split
  · rename_i hlabels
    split
    · have hname : a.name = b.name := (same_iff.mp h).1
      refine .ok ?_
      rw [same, Bool.and_eq_true, decide_eq_true_eq]
      exact ⟨hname, Mapping.same_iff_perm.mpr hperm⟩
    · rename_i hbad
      cases (hcheck.symm.trans hlabels).symm.trans hbad
  · rename_i rejection hbad
    split
    · rename_i hlabels
      cases (hcheck.trans hlabels).symm.trans hbad
    · rename_i rejection' hbad'
      rw [Option.some.inj ((hcheck.symm.trans hbad).symm.trans hbad')]
      exact .error _

end App

namespace Client

variable {a b : App}

theorem mergedApp_of_same (h : a.same b = true) (data : Option TagData) (tag : Text) :
    Agreement (fun x y : App => x.same y = true) (mergedApp a data tag) (mergedApp b data tag) := by
  have hperm : a.labels.toList.Perm b.labels.toList := by
    rw [App.same, Bool.and_eq_true] at h
    exact Mapping.same_iff_perm.mp h.2
  unfold mergedApp
  rcases mergeTag_of_perm hperm data (some tag) with
    ⟨problem, ha, hb⟩ | ⟨added, ha, hb⟩
  · rw [ha, hb]
    exact .error _
  · rw [ha, hb]
    exact App.withLabels_of_same h (Mapping.addNew_perm hperm added.distinct)
      (checkLabels_addNew_of_perm a.labels_ok b.labels_ok hperm)

end Client

/-! ## Walks -/

theorem Declaration.items_of_same {a b : App} (h : a.same b = true) (kind : Kind)
    (declarations : List Declaration) : items declarations a kind = items declarations b kind := by
  obtain ⟨hname, hsorted⟩ := App.same_iff.mp h
  have happlicable : applicable declarations kind a = applicable declarations kind b := by
    rw [applicable, applicable, hname]
  -- templates see the labels in the order of their names
  have hsubstitutes : a.substitutes = b.substitutes := by
    rw [App.substitutes, App.substitutes, hname, hsorted]
  cases kind with
  | images => rw [items, items, images, images, happlicable, hsubstitutes]
  | keys => rw [items, items, keys, keys, happlicable, hsubstitutes]
  | tags => exact tagDocuments_congr declarations hname

namespace Client

variable (client : Client) {a b : App} (allowance : Allowance)

theorem walk_of_same (h : a.same b = true) (kind : Kind) :
    client.walk a kind allowance = client.walk b kind allowance :=
  walk_congr (App.same_iff.mp h).1 fun declarations => Declaration.items_of_same h kind declarations

/-- Looking for tag data does not see labels. -/
theorem findTagData_congr (h : a.name = b.name) (tag : Text) :
    client.findTagData a tag allowance = client.findTagData b tag allowance := by
  unfold findTagData Resolution.noTagDataRecord Resolution.record
  rw [walk_tags_congr h, h]

theorem findKeys_of_same (h : a.same b = true) :
    client.findKeys a allowance = client.findKeys b allowance := by
  unfold findKeys Resolution.noKeysRecord Resolution.record
  rw [walk_of_same client allowance h, (App.same_iff.mp h).1]

end Client

/-! ## Resolving -/

/-- Tags of the same app that are resolved alike. -/
structure Tagged.Same (s t : Tagged) : Prop where
  app : s.app.same t.app = true
  tagDocument : s.tagDocument = t.tagDocument
  attempts : s.attempts = t.attempts

/-- Resolutions that differ in the order of labels at most. -/
structure Resolution.Same (r s : Resolution) : Prop where
  app : r.app.same s.app = true
  images : r.images = s.images
  keys : r.keys = s.keys
  tagDocument : r.tagDocument = s.tagDocument
  attempts : r.attempts = s.attempts

namespace Client

variable {client : Client} {a b : App} {allowance : Allowance}

theorem resolveTag_of_same (h : a.same b = true) (tag : Option Text) :
    (client.resolveTag a tag allowance).Agree Tagged.Same (client.resolveTag b tag allowance) := by
  unfold resolveTag
  cases tag.filter (!·.isEmpty) with
  | none => exact ⟨rfl, .ok ⟨h, rfl, rfl⟩⟩
  | some tag =>
    have hfind := findTagData_congr client allowance (App.same_iff.mp h).1 tag
    refine (Run.agree_of_eq hfind).bind ?_
    rintro ⟨attempts, source⟩ _ rfl
    have hmerge := (mergedApp_of_same h (source.map Prod.snd) tag).mapError Failure.expected
    have hmerged : (Run.ofExcept ((mergedApp a (source.map Prod.snd) tag).mapError .expected)).Agree
        (fun x y : App => x.same y = true)
        (Run.ofExcept ((mergedApp b (source.map Prod.snd) tag).mapError .expected)) :=
      ⟨rfl, hmerge⟩
    refine hmerged.bind fun x y hxy => ?_
    exact ⟨rfl, .ok ⟨hxy, rfl, rfl⟩⟩

/-- **Label order.**  Apps with the same name and the same labels, in whatever order, are resolved by the
    same requests in the same order, and either fail with one failure or come to the same. -/
theorem resolve_of_same (h : a.same b = true) (tag : Option Text) :
    (client.resolve a tag allowance).Agree Resolution.Same (client.resolve b tag allowance) := by
  unfold resolve
  refine (resolveTag_of_same h tag).bind fun s t hst => ?_
  have himages := walk_of_same client allowance hst.app .images
  have hkeys := findKeys_of_same client allowance hst.app
  refine (Run.agree_of_eq (congrArg (Run.mapError · Error.exhausted) himages)).bind ?_
  rintro images _ rfl
  refine (Run.agree_of_eq hkeys).bind ?_
  rintro ⟨attempts, keys⟩ _ rfl
  exact ⟨rfl, .ok ⟨hst.app, rfl, rfl, hst.tagDocument, by rw [hst.attempts]⟩⟩

theorem resolve_of_same_swapped :
    let client : Client := { config := { dialTimeout := defaultDialTimeout },
                             server := withTagData.reply }
    let a : App := ⟨"example.com/a", ⟨[("os", "linux"), ("arch", "amd64")], by decide⟩,
      by decide, by decide⟩
    let b : App := ⟨"example.com/a", ⟨[("arch", "amd64"), ("os", "linux")], by decide⟩,
      by decide, by decide⟩
    a ≠ b ∧ a.same b = true ∧
      (client.resolve a (some "latest") .none).Agree Resolution.Same
        (client.resolve b (some "latest") .none) := by
  intro client a b
  have hsame : a.same b = true := by decide
  exact ⟨by decide, hsame, resolve_of_same hsame (some "latest")⟩

end Client

end ImageDiscovery
