import ImageDiscovery.Proofs.Client.Pages
import ImageDiscovery.Proofs.Resolution.Pinned

/-!
# Outcome — how resolutions end, and what they ask for

A tag is settled before anything else is asked for: by a walk for tag data and, if that finds some, by
the first document it found.  After that a resolution fails only if no images are found, and then it
does not ask for keys.
-/

namespace ImageDiscovery

open Fetch

namespace Client

variable {client : Client} {app : App} {given : Option Text} {tag : Text} {allowance : Allowance}

/-! ## The tag -/

/-- The requests for a tag: those of the walk for tag data, and those for the first that it finds. -/
def tagRequests (client : Client) (app : App) (allowance : Allowance) : List Request :=
  (client.walk app .tags allowance).requests ++
    match (client.walk app .tags allowance).outcome with
    | .ok found => (client.fetch found.first.artifact allowance).requests
    | .error _ => []

theorem requests_findTagData (client : Client) (app : App) (tag : Text) (allowance : Allowance) :
    (client.findTagData app tag allowance).requests = client.tagRequests app allowance := by
  unfold findTagData tagRequests
  match hwalk : (client.walk app .tags allowance).outcome with
  | .ok found =>
    rw [Run.requests_either_of_ok hwalk, Run.requests_bind, requests_fetchTagData]
    cases (client.fetchTagData found.first allowance).outcome <;> simp
  | .error (.expected e) =>
    rw [Run.requests_either_of_expected hwalk]
    rfl
  | .error (.breakdown cause) =>
    rw [Run.requests_either_of_breakdown hwalk]
    exact (List.append_nil _).symm

/-- What is known of an app with the labels of a tag, by what was found for the tag. -/
def taggedBy (app : App) (tag : Text) (attempts : List Attempt)
    (source : Option (Endpoint × TagData)) : Except (Failure Error) Tagged :=
  ((mergedApp app (source.map Prod.snd) tag).mapError .expected).map fun merged =>
    ⟨merged, source.map Prod.fst, [(.tags, attempts)]⟩

variable (client app allowance) in
theorem resolveTag_of_tagged (h : given.filter (!·.isEmpty) = some tag) :
    (client.resolveTag app given allowance).requests = client.tagRequests app allowance ∧
      (client.resolveTag app given allowance).outcome =
        (client.findTagData app tag allowance).outcome >>= fun found =>
          taggedBy app tag found.1 found.2 := by
  -- merging asks for nothing
  have hmerge : ∀ source : Option (Endpoint × TagData), ∀ attempts : List Attempt,
      let merge : Run Error Tagged := do
        let merged ← Run.ofExcept ((mergedApp app (source.map Prod.snd) tag).mapError .expected)
        Run.told (Resolution.mergedRecord app tag merged.labels)
        return ⟨merged, source.map Prod.fst, [(.tags, attempts)]⟩
      merge.requests = [] ∧ merge.outcome = taggedBy app tag attempts source := by
    intro source attempts
    unfold taggedBy
    cases mergedApp app (source.map Prod.snd) tag <;> exact ⟨rfl, rfl⟩
  rw [resolveTag, h]
  dsimp only
  rw [Run.requests_bind, Run.outcome_bind, requests_findTagData]
  cases (client.findTagData app tag allowance).outcome with
  | error failure => exact ⟨List.append_nil _, rfl⟩
  | ok found =>
    rcases hmerge found.2 found.1 with ⟨hrequests, houtcome⟩
    refine ⟨?_, houtcome⟩
    show _ ++ Run.requests _ = _
    exact (congrArg _ hrequests).trans (List.append_nil _)

/-- The phase of a tag: what it asks for, and how it ends by the walk for tag data. -/
structure SettlesTag (client : Client) (app : App) (given : Option Text) (tag : Text)
    (allowance : Allowance) : Prop where
  requests : (client.resolveTag app given allowance).requests = client.tagRequests app allowance
  exhausted : ∀ exhaustion,
    (client.walk app .tags allowance).outcome = .error (.expected exhaustion) →
      (client.resolveTag app given allowance).outcome = taggedBy app tag exhaustion.attempts none
  found : ∀ found, (client.walk app .tags allowance).outcome = .ok found →
    (client.resolveTag app given allowance).outcome =
      (client.fetchTagData found.first allowance).outcome >>= fun data =>
        taggedBy app tag found.attempts (some (found.first, data))
  /-- A walk for tag data in vain is not what a resolution fails by. -/
  notExhausted : ∀ exhaustion,
    (client.resolveTag app given allowance).outcome ≠ .error (.expected (.exhausted exhaustion))

theorem taggedBy_ne_exhausted {attempts : List Attempt} {source : Option (Endpoint × TagData)}
    (exhaustion : Exhaustion) :
    taggedBy app tag attempts source ≠ .error (.expected (.exhausted exhaustion)) := by
  unfold taggedBy mergedApp App.withLabels
  cases mergeTag app.labels (source.map Prod.snd) (some tag) with
  | error problem => exact nofun
  | ok labels =>
    show (((App.make? app.name labels).mapError _).mapError _).map _ ≠ _
    cases App.make? app.name labels <;> exact nofun

/-- Tag data cannot be fetched, or what is fetched is no tag data. -/
theorem of_fetchTagData_eq_expected {document : Endpoint} {e : Error}
    (h : (client.fetchTagData document allowance).outcome = .error (.expected e)) :
    (∃ cause, e = .fetch cause) ∨ ∃ url cause, e = .invalidDocument url cause := by
  cases Run.of_outcome_bind_eq_error h with
  | inl hfetch =>
    have ⟨cause, _, he⟩ := Run.of_outcome_mapError_eq_expected hfetch
    exact .inl ⟨cause, he.symm⟩
  | inr hfetched =>
    have ⟨fetched, _, hread⟩ := hfetched
    split at hread
    · exact .inr ⟨_, _, (Failure.expected.inj (Except.error.inj hread)).symm⟩
    · exact nomatch hread

theorem fetchTagData_ne_exhausted (document : Endpoint) (exhaustion : Exhaustion) :
    (client.fetchTagData document allowance).outcome ≠
      .error (.expected (.exhausted exhaustion)) := by
  intro h
  cases of_fetchTagData_eq_expected h with
  | inl hfetch =>
    have ⟨_, he⟩ := hfetch
    exact nomatch he
  | inr hread =>
    have ⟨_, _, he⟩ := hread
    exact nomatch he

theorem settlesTag (h : given.filter (!·.isEmpty) = some tag) :
    client.SettlesTag app given tag allowance := by
  rcases resolveTag_of_tagged client app allowance h with
    ⟨hrequests, houtcome⟩
  have hexhausted : ∀ exhaustion,
      (client.walk app .tags allowance).outcome = .error (.expected exhaustion) →
        (client.findTagData app tag allowance).outcome = .ok (exhaustion.attempts, none) :=
    fun exhaustion hwalk => Run.outcome_either_of_expected hwalk
  have hfound : ∀ found, (client.walk app .tags allowance).outcome = .ok found →
      (client.findTagData app tag allowance).outcome =
        (client.fetchTagData found.first allowance).outcome >>= fun data =>
          .ok (found.attempts, some (found.first, data)) := by
    intro found hwalk
    rw [findTagData, Run.outcome_either_of_ok hwalk, Run.outcome_bind]
    rfl
  constructor
  case requests => exact hrequests
  case exhausted =>
    intro exhaustion hwalk
    rw [houtcome, hexhausted exhaustion hwalk]
    rfl
  case found =>
    intro found hwalk
    rw [houtcome, hfound found hwalk]
    cases (client.fetchTagData found.first allowance).outcome <;> rfl
  case notExhausted =>
    -- the exhaustion of the walk is caught, and what comes after it fails in other ways
    intro exhaustion
    rw [houtcome]
    cases hwalk : (client.walk app .tags allowance).outcome with
    | ok found =>
      rw [hfound found hwalk]
      cases hdata : (client.fetchTagData found.first allowance).outcome with
      | ok data => exact taggedBy_ne_exhausted exhaustion
      | error failure =>
        intro h
        exact fetchTagData_ne_exhausted found.first exhaustion
          (hdata.trans (congrArg Except.error (Except.error.inj h)))
    | error failure =>
      cases failure with
      | expected e =>
        rw [hexhausted e hwalk]
        exact taggedBy_ne_exhausted exhaustion
      | breakdown cause =>
        rw [findTagData, Run.outcome_either_of_breakdown hwalk]
        intro h
        cases h

/-! ## The walks after that -/

/-- What a walk for keys comes to: keys that were found, or none if it was in vain. -/
inductive KeysAre (client : Client) (app : App) (allowance : Allowance) :
    List Attempt → List Text → Prop where
  | found {found : Found .keys} (h : (client.walk app .keys allowance).outcome = .ok found) :
    KeysAre client app allowance found.attempts found.items
  | exhausted {exhaustion : Exhaustion}
    (h : (client.walk app .keys allowance).outcome = .error (.expected exhaustion)) :
    KeysAre client app allowance exhaustion.attempts []

/-- How a resolution goes on when its tag is settled. -/
structure Completes (client : Client) (app : App) (given : Option Text) (tagged : Tagged)
    (allowance : Allowance) : Prop where
  name : tagged.app.name = app.name
  labels : ∀ label value, app.labels.get? label = some value →
    tagged.app.labels.get? label = some value
  kinds : tagged.attempts.map Prod.fst =
    (given.filter (!·.isEmpty)).toList.map fun _ => Kind.tags
  exhausted : ∀ exhaustion,
    (client.walk tagged.app .images allowance).outcome = .error (.expected exhaustion) →
      (client.resolve app given allowance).outcome = .error (.expected (.exhausted exhaustion)) ∧
        (client.resolve app given allowance).requests =
          (client.resolveTag app given allowance).requests ++
            (client.walk tagged.app .images allowance).requests
  found : ∀ images, (client.walk tagged.app .images allowance).outcome = .ok images →
    ∃ attempts keys, client.KeysAre tagged.app allowance attempts keys ∧
      (client.resolve app given allowance).outcome =
        .ok ⟨tagged.app, images.items, keys, tagged.tagDocument,
          tagged.attempts ++ [(.images, images.attempts), (.keys, attempts)]⟩ ∧
      (client.resolve app given allowance).requests =
        (client.resolveTag app given allowance).requests ++
          (client.walk tagged.app .images allowance).requests ++
            (client.walk tagged.app .keys allowance).requests
  fails_iff : (∃ failure, (client.resolve app given allowance).outcome = .error failure) ↔
    ∃ exhaustion, (client.walk tagged.app .images allowance).outcome = .error (.expected exhaustion)

theorem kept_of_resolveTag {tagged : Tagged}
    (h : (client.resolveTag app given allowance).outcome = .ok tagged) :
    tagged.app.name = app.name ∧
      (∀ label value, app.labels.get? label = some value →
        tagged.app.labels.get? label = some value) ∧
      tagged.attempts.map Prod.fst =
        (given.filter (!·.isEmpty)).toList.map fun _ => Kind.tags := by
  cases hgiven : given.filter (!·.isEmpty) with
  | none =>
    rw [resolveTag_of_untagged hgiven] at h
    rw [← Except.ok.inj h]
    exact ⟨rfl, fun _ _ hlabel => hlabel, rfl⟩
  | some tag =>
    rcases (outcome_resolveTag_eq_ok_iff hgiven).mp h with
      ⟨attempts, source, -, hmerged, -, hattempts⟩
    rcases of_mergedApp hmerged with ⟨-, hname, hlabels⟩
    exact ⟨hname, hlabels, by rw [hattempts]; rfl⟩

/-- Keys are walked for, and a walk in vain is no failure. -/
theorem exists_keysAre (hdirect : client.Direct) (app : App) (allowance : Allowance) :
    (client.findKeys app allowance).requests = (client.walk app .keys allowance).requests ∧
      ∃ attempts keys, client.KeysAre app allowance attempts keys ∧
        (client.findKeys app allowance).outcome = .ok (attempts, keys) := by
  rcases walk_eq_ok_or_exhausted hdirect app .keys allowance with
    ⟨found, hwalk⟩ | ⟨exhaustion, hwalk⟩
  · refine ⟨?_, _, _, .found hwalk, Run.outcome_either_of_ok hwalk⟩
    rw [findKeys, Run.requests_either_of_ok hwalk]
    exact List.append_nil _
  · refine ⟨?_, _, _, .exhausted hwalk, Run.outcome_either_of_expected hwalk⟩
    rw [findKeys, Run.requests_either_of_expected hwalk]
    exact List.append_nil _

theorem completes_of_resolveTag (hdirect : client.Direct) {tagged : Tagged}
    (h : (client.resolveTag app given allowance).outcome = .ok tagged) :
    client.Completes app given tagged allowance := by
  rcases kept_of_resolveTag h with ⟨hname, hlabels, hkinds⟩
  have hexhausted : ∀ exhaustion,
      (client.walk tagged.app .images allowance).outcome = .error (.expected exhaustion) →
        (client.resolve app given allowance).outcome = .error (.expected (.exhausted exhaustion)) ∧
          (client.resolve app given allowance).requests =
            (client.resolveTag app given allowance).requests ++
              (client.walk tagged.app .images allowance).requests := by
    intro exhaustion hwalk
    have himages := Run.outcome_mapError_of_expected (f := Error.exhausted) hwalk
    unfold resolve
    rw [Run.outcome_bind_of_ok h, Run.requests_bind_of_ok h, Run.outcome_bind_of_error himages,
      Run.requests_bind_of_error himages, Run.requests_mapError]
    exact ⟨rfl, rfl⟩
  have hfound : ∀ images, (client.walk tagged.app .images allowance).outcome = .ok images →
      ∃ attempts keys, client.KeysAre tagged.app allowance attempts keys ∧
        (client.resolve app given allowance).outcome =
          .ok ⟨tagged.app, images.items, keys, tagged.tagDocument,
            tagged.attempts ++ [(.images, images.attempts), (.keys, attempts)]⟩ ∧
        (client.resolve app given allowance).requests =
          (client.resolveTag app given allowance).requests ++
            (client.walk tagged.app .images allowance).requests ++
              (client.walk tagged.app .keys allowance).requests := by
    intro images hwalk
    have himages := Run.outcome_mapError_of_ok (f := Error.exhausted) hwalk
    rcases exists_keysAre hdirect tagged.app allowance with
      ⟨hrequests, attempts, keys, hkeys, houtcome⟩
    refine ⟨attempts, keys, hkeys, ?_⟩
    unfold resolve
    rw [Run.outcome_bind_of_ok h, Run.requests_bind_of_ok h, Run.outcome_bind_of_ok himages,
      Run.requests_bind_of_ok himages, Run.outcome_bind_of_ok houtcome,
      Run.requests_bind_of_ok houtcome, Run.requests_mapError, hrequests]
    refine ⟨rfl, ?_⟩
    rw [Run.requests_pure, List.append_nil, List.append_assoc]
  -- once there are images there is a result, so the walk for them is what may fail
  refine ⟨hname, hlabels, hkinds, hexhausted, hfound, ?_⟩
  constructor
  · rintro ⟨failure, hfailure⟩
    rcases walk_eq_ok_or_exhausted hdirect tagged.app .images allowance with
      ⟨images, hwalk⟩ | hwalk
    · rcases hfound images hwalk with ⟨attempts, keys, -, houtcome, -⟩
      exact nomatch houtcome.symm.trans hfailure
    · exact hwalk
  · rintro ⟨exhaustion, hwalk⟩
    exact ⟨_, (hexhausted exhaustion hwalk).1⟩

/-! ## Whole resolutions -/

/-- The phases of a resolution, and how each of them ends. -/
structure Resolves (client : Client) (app : App) (given : Option Text) (allowance : Allowance) :
    Prop where
  walked : ∀ app kind, (∃ found, (client.walk app kind allowance).outcome = .ok found) ∨
    ∃ exhaustion, (client.walk app kind allowance).outcome = .error (.expected exhaustion)
  untagged : given.filter (!·.isEmpty) = none →
    (client.resolveTag app given allowance).requests = [] ∧
      (client.resolveTag app given allowance).outcome = .ok ⟨app, none, []⟩
  tagged : ∀ tag, given.filter (!·.isEmpty) = some tag → client.SettlesTag app given tag allowance
  /-- What goes wrong with a tag ends the resolution, and nothing more is asked for. -/
  failed : ∀ failure, (client.resolveTag app given allowance).outcome = .error failure →
    (client.resolve app given allowance).outcome = .error failure ∧
      (client.resolve app given allowance).requests =
        (client.resolveTag app given allowance).requests
  completed : ∀ tagged, (client.resolveTag app given allowance).outcome = .ok tagged →
    client.Completes app given tagged allowance

/-- **How a resolution ends.**  Where servers answer directly, nothing but a tag that cannot be settled
    and a walk for images in vain ends a resolution early, and it makes the requests of the phases that
    it went through and no others. -/
theorem resolve_of_direct (hdirect : client.Direct) (app : App) (given : Option Text)
    (allowance : Allowance) : client.Resolves app given allowance := by
  constructor
  case walked =>
    exact fun app kind => walk_eq_ok_or_exhausted hdirect app kind allowance
  case untagged =>
    intro hgiven
    rw [resolveTag_of_untagged hgiven]
    exact ⟨rfl, rfl⟩
  case tagged => exact fun tag => settlesTag
  case failed =>
    intro failure h
    exact ⟨Run.outcome_bind_of_error h, Run.requests_bind_of_error h⟩
  case completed => exact fun tagged => completes_of_resolveTag hdirect

theorem resolve_of_direct_latest :
    let client : Client := { config := { dialTimeout := defaultDialTimeout },
                             server := withTagData.reply }
    client.Direct ∧ client.Resolves ⟨"example.com/a", {}, by decide, by decide⟩ (some "latest") .none := by
  intro client
  have hdirect : client.Direct := direct_of_site (rfl : withTagData.detours = {})
    (by simp [withTagData, Site.addDeclarations, Site.addDocument, Site.add])
  exact ⟨hdirect, resolve_of_direct hdirect _ _ _⟩

/-- A site with images, where the connection is misused when keys are looked for. -/
def misusedForKeys : Site :=
  (({} : Site).addDeclarations "example.com/a" "https"
    [⟨"ac-discovery", "example.com", "https://example.com/{name}.{ext}"⟩]).add
    "example.com" "https" (.fault ⟨"StreamError", "the stream is closed"⟩)

/-- A misuse of the connection ends a resolution even if images are found. -/
theorem exists_fails_with_images :
    ¬ ∀ (site : Site) (app : App) (given : Option Text) (allowance : Allowance),
      let client : Client := { config := { dialTimeout := defaultDialTimeout }, server := site.reply }
      site.detours = {} →
        ∀ tagged, (client.resolveTag app given allowance).outcome = .ok tagged →
          ((∃ failure, (client.resolve app given allowance).outcome = .error failure) ↔
            ∃ exhaustion, (client.walk tagged.app .images allowance).outcome =
              .error (.expected exhaustion)) := by
  intro h
  let client : Client := { config := { dialTimeout := defaultDialTimeout },
                           server := misusedForKeys.reply }
  let app : App := ⟨"example.com/a", {}, by decide, by decide⟩
  have hfails : (client.resolve app none .none).outcome.toOption.isSome = false := by
    decide +kernel
  have hfinds : (client.walk app .images .none).outcome.toOption.isSome = true := by
    decide +kernel
  have hiff := h misusedForKeys app none .none rfl ⟨app, none, []⟩ rfl
  cases hresolve : (client.resolve app none .none).outcome with
  | ok r =>
    rw [hresolve] at hfails
    exact nomatch hfails
  | error failure =>
    rcases hiff.mp ⟨failure, hresolve⟩ with ⟨exhaustion, hwalk⟩
    rw [show (client.walk app .images .none).outcome = _ from hwalk] at hfinds
    exact nomatch hfinds

end Client

end ImageDiscovery
