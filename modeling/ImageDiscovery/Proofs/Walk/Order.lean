import ImageDiscovery.Proofs.App.Namespaces
import ImageDiscovery.Proofs.Fetch.Run
import ImageDiscovery.Walk

/-!
# Order — which prefixes a walk visits, and what it records of them

A walk visits the namespaces of an app in their order and ends at the first whose page declares
something usable.  The attempts of a walk are exactly the namespaces before that one, each with the
reason why it did not satisfy the walk.  One step is taken apart for each way in which a visit can
end; a run over many places follows by induction.
-/

namespace ImageDiscovery

open Fetch

/-- A run that makes some requests first and is from then on like another. -/
structure Run.GoesOn {ε α : Type} (run : Run ε α) (requests : List Request) (next : Run ε α) :
    Prop where
  outcome : run.outcome = next.outcome
  requests : run.requests = requests ++ next.requests

theorem Run.GoesOn.trans {ε α : Type} {x y z : Run ε α} {first second : List Request}
    (h : x.GoesOn first y) (h' : y.GoesOn second z) : x.GoesOn (first ++ second) z :=
  ⟨h.outcome.trans h'.outcome, by rw [h.requests, h'.requests, List.append_assoc]⟩

namespace Walk

/-- What the page of a place declares of a kind for an app; nothing if it cannot be fetched. -/
def usable (source : PageSource) (app : App) (kind : Kind) (place : Text) : List kind.Item :=
  match (source place).outcome with
  | .ok document => Declaration.items (Page.declarations document.body) app kind
  | .error _ => []

/-- An attempt tells what came of its place: the failure of the fetch, or where the page was. -/
def Explained (source : PageSource) (kind : Kind) (attempt : Attempt) : Prop :=
  match attempt.error with
  | .fetch error => (source attempt.place).outcome = .error (.expected error)
  | .nothingUsable url k =>
    k = kind ∧ ∃ document, (source attempt.place).outcome = .ok document ∧ document.url = url

/-- A place that walks go past: its fetch does not break down, and it has nothing usable. -/
structure Passes (source : PageSource) (app : App) (kind : Kind) (place : Text) : Prop where
  calm : ∀ cause, (source place).outcome ≠ .error (.breakdown cause)
  inVain : usable source app kind place = []

variable {source : PageSource} {app : App} {kind : Kind}

theorem Explained.ne_breakdown {attempt : Attempt} (h : Explained source kind attempt)
    (cause : Breakdown) : (source attempt.place).outcome ≠ .error (.breakdown cause) := by
  rcases attempt with ⟨place, error⟩
  cases error with
  | fetch error =>
    have ho : (source place).outcome = .error (.expected error) := h
    rw [ho]
    exact nofun
  | nothingUsable url k =>
    rcases h with ⟨-, document, ho, -⟩
    rw [ho]
    exact nofun

/-! ## One visit -/

variable (app) in
theorem visit_of_explained {attempt : Attempt} (h : Explained source kind attempt)
    (hnone : usable source app kind attempt.place = []) (attempts : List Attempt)
    (rest : List Text) :
    (visit source app kind attempts (attempt.place :: rest)).GoesOn
      (source attempt.place).requests (visit source app kind (attempts ++ [attempt]) rest) := by
  rcases attempt with ⟨place, error⟩
  cases error with
  | fetch error =>
    -- the fetch failed
    have ho : (source place).outcome = .error (.expected error) := h
    constructor
    · rw [visit, Run.outcome_either_of_expected ho, Run.outcome_told_bind]
    · rw [visit, Run.requests_either_of_expected ho, Run.requests_told_bind]
  | nothingUsable url k =>
    -- the page was fetched, and declares nothing usable
    rcases h with ⟨rfl, document, ho, rfl⟩
    have hitems : Declaration.items (Page.declarations document.body) app k = [] := by
      rw [usable, ho] at hnone
      exact hnone
    constructor
    · rw [visit, Run.outcome_either_of_ok ho, dif_pos hitems, Run.outcome_told_bind]
    · rw [visit, Run.requests_either_of_ok ho, dif_pos hitems, Run.requests_told_bind]

theorem exists_document_of_usable {place : Text} (h : usable source app kind place ≠ []) :
    ∃ document, (source place).outcome = .ok document ∧ usable source app kind place =
      Declaration.items (Page.declarations document.body) app kind := by
  cases ho : (source place).outcome with
  | error failure =>
    rw [usable, ho] at h
    exact absurd rfl h
  | ok document => exact ⟨document, rfl, by rw [usable, ho]⟩

theorem visit_of_usable {place : Text} (h : usable source app kind place ≠ [])
    (attempts : List Attempt) (rest : List Text) :
    (visit source app kind attempts (place :: rest)).outcome =
        .ok ⟨usable source app kind place, h, attempts, place⟩ ∧
      (visit source app kind attempts (place :: rest)).requests = (source place).requests := by
  rcases exists_document_of_usable h with ⟨document, ho, hitems⟩
  have hne := hitems ▸ h
  constructor
  · rw [visit, Run.outcome_either_of_ok ho, dif_neg hne, Run.outcome_told_bind]
    simp only [hitems]
    rfl
  · rw [visit, Run.requests_either_of_ok ho, dif_neg hne, Run.requests_told_bind]
    exact List.append_nil _

/-- A walk stops at once if the page of the whole name has something usable. -/
theorem walk_of_usable (h : usable source app kind app.name ≠ []) :
    (walk source app kind).outcome = .ok ⟨usable source app kind app.name, h, [], app.name⟩ := by
  rcases List.head?_eq_some_iff.mp app.head?_namespaces with ⟨rest, hplaces⟩
  rw [walk, hplaces]
  exact (visit_of_usable h [] rest).1

theorem visit_of_breakdown {place : Text} {cause : Breakdown}
    (h : (source place).outcome = .error (.breakdown cause)) (attempts : List Attempt)
    (rest : List Text) :
    (visit source app kind attempts (place :: rest)).outcome = .error (.breakdown cause) := by
  rw [visit, Run.outcome_either_of_breakdown h]

/-! ## A run of visits -/

variable (app) in
/-- Places without anything usable are passed one after another, each is fetched once, and what is
    recorded of them is added in their order. -/
theorem visit_append {passed : List Attempt} (h : ∀ attempt ∈ passed, Explained source kind attempt)
    (hnone : ∀ attempt ∈ passed, usable source app kind attempt.place = [])
    (attempts : List Attempt) (rest : List Text) :
    (visit source app kind attempts (passed.map Attempt.place ++ rest)).GoesOn
      ((passed.map Attempt.place).flatMap fun place => (source place).requests)
      (visit source app kind (attempts ++ passed) rest) := by
  -- each visit adds an attempt, so the induction is for all attempts before it
  induction passed generalizing attempts with
  | nil => exact ⟨by rw [List.append_nil]; rfl, by rw [List.append_nil]; rfl⟩
  | cons attempt passed ih =>
    rw [List.forall_mem_cons] at h hnone
    have hstep := visit_of_explained app h.1 hnone.1 attempts
      (passed.map Attempt.place ++ rest)
    have hrun := ih h.2 hnone.2 (attempts ++ [attempt])
    rw [List.append_assoc, List.singleton_append] at hrun
    rw [List.map_cons, List.cons_append, List.flatMap_cons]
    exact hstep.trans hrun

variable (kind) in
/-- Unless something breaks down, there is an explanation for each place without anything usable. -/
theorem exists_explained {places : List Text}
    (h : ∀ place ∈ places, ∀ cause, (source place).outcome ≠ .error (.breakdown cause)) :
    ∃ passed : List Attempt, passed.map Attempt.place = places ∧
      ∀ attempt ∈ passed, Explained source kind attempt := by
  induction places with
  | nil => exact ⟨[], rfl, by simp⟩
  | cons place rest ih =>
    rw [List.forall_mem_cons] at h
    rcases ih h.2 with ⟨passed, hplaces, hexplained⟩
    have hfirst : ∃ error, Explained source kind ⟨place, error⟩ := by
      cases ho : (source place).outcome with
      | ok document => exact ⟨.nothingUsable document.url kind, rfl, document, ho, rfl⟩
      | error failure =>
        cases failure with
        | expected error => exact ⟨.fetch error, ho⟩
        | breakdown cause => exact absurd ho (h.1 cause)
    rcases hfirst with ⟨error, herror⟩
    refine ⟨⟨place, error⟩ :: passed, by rw [List.map_cons, hplaces], ?_⟩
    rw [List.forall_mem_cons]
    exact ⟨herror, hexplained⟩

/-! ## Whole walks -/

/-- A walk that ends at the first namespace whose page declares something usable. -/
structure StopsAt (source : PageSource) (app : App) (kind : Kind) (found : Found kind) : Prop where
  outcome : (walk source app kind).outcome = .ok found
  items : found.items = usable source app kind found.place
  /-- The attempts and the place at the end are the namespaces that were visited, in their order. -/
  visited : found.attempts.map Attempt.place ++ [found.place] <+: app.namespaces
  explained : ∀ attempt ∈ found.attempts, Explained source kind attempt
  inVain : ∀ attempt ∈ found.attempts, usable source app kind attempt.place = []
  /-- The pages of these, and no others, are fetched. -/
  requests : (walk source app kind).requests =
    (found.attempts.map Attempt.place ++ [found.place]).flatMap fun place =>
      (source place).requests

/-- A walk that visits all namespaces in vain. -/
structure EndsInVain (source : PageSource) (app : App) (kind : Kind) (attempts : List Attempt) :
    Prop where
  outcome : (walk source app kind).outcome = .error (.expected ⟨kind, app.name, attempts⟩)
  visited : attempts.map Attempt.place = app.namespaces
  explained : ∀ attempt ∈ attempts, Explained source kind attempt
  requests : (walk source app kind).requests =
    app.namespaces.flatMap fun place => (source place).requests

theorem exists_first_usable {places : List Text}
    (h : ∃ place ∈ places, usable source app kind place ≠ []) :
    ∃ earlier place rest, places = earlier ++ place :: rest ∧
      usable source app kind place ≠ [] ∧ ∀ p ∈ earlier, usable source app kind p = [] := by
  have hfind : (places.find? fun p => !(usable source app kind p).isEmpty).isSome := by
    rw [List.find?_isSome]
    rcases h with ⟨place, hmem, hne⟩
    exact ⟨place, hmem, by simpa using hne⟩
  rcases Option.isSome_iff_exists.mp hfind with ⟨place, hplace⟩
  rcases List.find?_eq_some_iff_append.mp hplace with ⟨hne, earlier, rest, hsplit, hearlier⟩
  exact ⟨earlier, place, rest, hsplit, by simpa using hne, by simpa using hearlier⟩

/-- Places are passed up to the first one that has something usable or breaks down. -/
theorem exists_first_not_passed {places : List Text} (h : ¬ ∀ p ∈ places, Passes source app kind p) :
    ∃ earlier place rest, places = earlier ++ place :: rest ∧ ¬ Passes source app kind place ∧
      ∀ p ∈ earlier, Passes source app kind p := by
  induction places with
  | nil => exact absurd (fun _ => nofun) h
  | cons first places ih =>
    by_cases hfirst : Passes source app kind first
    · have hrest : ¬ ∀ p ∈ places, Passes source app kind p := fun hall =>
        h (List.forall_mem_cons.mpr ⟨hfirst, hall⟩)
      rcases ih hrest with ⟨earlier, place, rest, rfl, hplace, hearlier⟩
      exact ⟨first :: earlier, place, rest, rfl, hplace, List.forall_mem_cons.mpr ⟨hfirst, hearlier⟩⟩
    · exact ⟨[], first, places, rfl, hfirst, fun _ => nofun⟩

/-- A walk goes past the places before one, and is there as if it began there. -/
theorem exists_passed {places : List Text} (h : ∀ p ∈ places, Passes source app kind p)
    (rest : List Text) :
    ∃ passed : List Attempt, passed.map Attempt.place = places ∧
      (∀ attempt ∈ passed, Explained source kind attempt) ∧
      (∀ attempt ∈ passed, usable source app kind attempt.place = []) ∧
      (visit source app kind [] (places ++ rest)).GoesOn
        (places.flatMap fun place => (source place).requests)
        (visit source app kind passed rest) := by
  rcases exists_explained kind fun p hp => (h p hp).calm with ⟨passed, rfl, hexplained⟩
  have hinVain : ∀ attempt ∈ passed, usable source app kind attempt.place = [] :=
    fun attempt hmem => (h _ (List.mem_map_of_mem hmem)).inVain
  exact ⟨passed, rfl, hexplained, hinVain, visit_append app hexplained hinVain [] rest⟩

theorem stopsAt_of_passed {earlier rest : List Text} {place : Text}
    (hsplit : app.namespaces = earlier ++ place :: rest)
    (hearlier : ∀ p ∈ earlier, Passes source app kind p) (hne : usable source app kind place ≠ []) :
    ∃ found, StopsAt source app kind found ∧ found.place = place := by
  -- the places before are passed, and the visit of this one is the last
  rcases exists_passed hearlier (place :: rest) with
    ⟨passed, hplaces, hexplained, hinVain, hpassed⟩
  rcases visit_of_usable hne passed rest with ⟨houtcome, hrequests⟩
  rw [← hsplit] at hpassed
  refine ⟨⟨usable source app kind place, hne, passed, place⟩,
    ⟨hpassed.outcome.trans houtcome, rfl, ?_, hexplained, hinVain, ?_⟩, rfl⟩
  · exact ⟨rest, by rw [hplaces, hsplit, List.append_assoc, List.singleton_append]⟩
  · rw [List.flatMap_append, List.flatMap_singleton, ← hrequests, hplaces]
    exact hpassed.requests

theorem exists_stopsAt
    (h : ∀ place ∈ app.namespaces, ∀ cause, (source place).outcome ≠ .error (.breakdown cause))
    (hsome : ∃ place ∈ app.namespaces, usable source app kind place ≠ []) :
    ∃ found, StopsAt source app kind found := by
  rcases exists_first_usable hsome with ⟨earlier, place, rest, hsplit, hne, hearlier⟩
  have hpasses : ∀ p ∈ earlier, Passes source app kind p := by
    intro p hp
    refine ⟨h p ?_, hearlier p hp⟩
    rw [hsplit]
    exact List.mem_append_left _ hp
  rcases stopsAt_of_passed hsplit hpasses hne with ⟨found, hfound, -⟩
  exact ⟨found, hfound⟩

theorem endsInVain_of_passed (h : ∀ place ∈ app.namespaces, Passes source app kind place) :
    ∃ attempts, EndsInVain source app kind attempts := by
  rcases exists_passed h [] with ⟨passed, hplaces, hexplained, -, hpassed⟩
  rw [List.append_nil] at hpassed
  refine ⟨passed, hpassed.outcome, hplaces, hexplained, ?_⟩
  rw [walk, hpassed.requests]
  exact List.append_nil _

theorem exists_endsInVain
    (h : ∀ place ∈ app.namespaces, ∀ cause, (source place).outcome ≠ .error (.breakdown cause))
    (hnone : ∀ place ∈ app.namespaces, usable source app kind place = []) :
    ∃ attempts, EndsInVain source app kind attempts :=
  endsInVain_of_passed fun place hmem => ⟨h place hmem, hnone place hmem⟩

/-- There is no other end of a walk: it stops, is in vain, or breaks down. -/
theorem stopsAt_or_endsInVain_or_breaksDown (source : PageSource) (app : App) (kind : Kind) :
    (∃ found, StopsAt source app kind found) ∨
      ((∀ place ∈ app.namespaces, Passes source app kind place) ∧
        ∃ attempts, EndsInVain source app kind attempts) ∨
      ∃ cause, (walk source app kind).outcome = .error (.breakdown cause) := by
  by_cases hall : ∀ place ∈ app.namespaces, Passes source app kind place
  · exact .inr (.inl ⟨hall, endsInVain_of_passed hall⟩)
  · rcases exists_first_not_passed hall with ⟨earlier, place, rest, hsplit, hplace, hearlier⟩
    by_cases hne : usable source app kind place = []
    · -- the place has nothing, so its fetch is what keeps it from being passed
      have hcause : ∃ cause, (source place).outcome = .error (.breakdown cause) :=
        Classical.byContradiction fun hnone =>
          hplace ⟨fun cause hcause => hnone ⟨cause, hcause⟩, hne⟩
      rcases hcause with ⟨cause, hcause⟩
      rcases exists_passed hearlier (place :: rest) with ⟨passed, -, -, -, hpassed⟩
      rw [← hsplit] at hpassed
      exact .inr (.inr ⟨cause, hpassed.outcome.trans (visit_of_breakdown hcause passed rest)⟩)
    · rcases stopsAt_of_passed hsplit hearlier hne with ⟨found, hfound, -⟩
      exact .inl ⟨found, hfound⟩

theorem stopsAt_of_walk {found : Found kind} (h : (walk source app kind).outcome = .ok found) :
    StopsAt source app kind found := by
  rcases stopsAt_or_endsInVain_or_breaksDown source app kind with
    ⟨found', hstops⟩ | ⟨-, attempts, hends⟩ | ⟨cause, hcause⟩
  · rw [Except.ok.inj (h.symm.trans hstops.outcome)]
    exact hstops
  · exact nomatch h.symm.trans hends.outcome
  · exact nomatch h.symm.trans hcause

theorem passes_of_exhausted {exhaustion : Exhaustion}
    (h : (walk source app kind).outcome = .error (.expected exhaustion)) :
    ∀ place ∈ app.namespaces, Passes source app kind place := by
  rcases stopsAt_or_endsInVain_or_breaksDown source app kind with
    ⟨found, hstops⟩ | ⟨hall, -⟩ | ⟨cause, hcause⟩
  · exact nomatch h.symm.trans hstops.outcome
  · exact hall
  · exact nomatch h.symm.trans hcause

/-- **What a walk visits.**  As long as no fetch breaks down, a walk ends at the first namespace whose
    page declares something usable, or else visits all of them in vain.  No namespace is listed twice:
    the name comes first, and each one with a slash behind it starts those before it. -/
theorem walk_stopsAt_or_endsInVain (source : PageSource) (app : App) (kind : Kind)
    (h : ∀ place ∈ app.namespaces, ∀ cause, (source place).outcome ≠ .error (.breakdown cause)) :
    ((∃ place ∈ app.namespaces, usable source app kind place ≠ []) →
        ∃ found, StopsAt source app kind found) ∧
      ((∀ place ∈ app.namespaces, usable source app kind place = []) →
        ∃ attempts, EndsInVain source app kind attempts) ∧
      app.namespaces.Nodup ∧ app.namespaces.head? = some app.name ∧
      app.namespaces.Pairwise fun long short => short ++ [.char '/'] <+: long :=
  ⟨exists_stopsAt h, exists_endsInVain h, app.nodup_namespaces, app.head?_namespaces,
    app.pairwise_namespaces⟩

theorem walk_stopsAt_or_endsInVain_root :
    let page : Text := "<meta name='ac-discovery-pubkeys' content='example.com https://k/{name}'>"
    let source : PageSource := fun place =>
      if place = "example.com/a/b" then .fail (.badStatus "https://example.com/a/b" 404)
      else pure ⟨"https://" ++ place, if place = "example.com" then Text.utf8 page else []⟩
    let app : App := ⟨"example.com/a/b", ⟨[], by simp⟩, by decide, by decide⟩
    (∀ place ∈ app.namespaces, ∀ cause, (source place).outcome ≠ .error (.breakdown cause)) ∧
      (∃ place ∈ app.namespaces, usable source app .keys place ≠ []) ∧
      ∃ found, StopsAt source app .keys found := by
  intro page source app
  have h : ∀ place ∈ app.namespaces, ∀ cause, (source place).outcome ≠ .error (.breakdown cause) := by
    intro place _ cause
    by_cases hplace : place = "example.com/a/b"
    · rw [show source place = _ from if_pos hplace]
      exact nofun
    · rw [show source place = _ from if_neg hplace]
      exact nofun
  have hsome : ∃ place ∈ app.namespaces, usable source app .keys place ≠ [] := by decide +kernel
  exact ⟨h, hsome, (walk_stopsAt_or_endsInVain source app .keys h).1 hsome⟩

end Walk

end ImageDiscovery
