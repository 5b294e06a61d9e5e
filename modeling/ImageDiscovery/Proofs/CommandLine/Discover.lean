import ImageDiscovery.Proofs.CommandLine.Document
import ImageDiscovery.Proofs.Resolution.Phases
import ImageDiscovery.Proofs.Walk.Order
import ImageDiscovery.Site

/-!
# Discovering apps one after another

The program goes through its apps up to the first that it cannot tell of, and leaves what it would leave
for each of them alone.  With JSON, standard output holds the documents of the apps that were found and
nothing else.
-/

namespace ImageDiscovery

namespace CommandLine

/-! ## Effects -/

namespace Effects

theorem append_empty (effects : Effects) : effects ++ ({} : Effects) = effects := by
  show append effects {} = effects
  simp only [append, List.append_nil]

theorem append_assoc (a b c : Effects) : a ++ b ++ c = a ++ (b ++ c) := by
  show append (append a b) c = append a (append b c)
  simp only [append, List.append_assoc]

/-- A part of what steps leave, which each of them adds to. -/
structure IsPart {β : Type} (part : Effects → List β) : Prop where
  empty : part {} = []
  append : ∀ a b, part (a ++ b) = part a ++ part b

theorem isPart_out : IsPart out := ⟨rfl, fun _ _ => rfl⟩

theorem isPart_err : IsPart err := ⟨rfl, fun _ _ => rfl⟩

theorem isPart_requests : IsPart requests := ⟨rfl, fun _ _ => rfl⟩

end Effects

/-! ## Steps one after another -/

section

variable {α β : Type} {one : α → Effects × Exit} {x : α} {items done rest : List α}

theorem each_cons_of_success (h : (one x).2 = .success) (items : List α) :
    each one (x :: items) = ((one x).1 ++ (each one items).1, (each one items).2) := by
  have hx : one x = ((one x).1, .success) := Prod.ext rfl h
  rw [each]
  split
  · rename_i effects heq
    rw [heq]
  · rename_i hstopped
    exact absurd hx (hstopped _)

theorem each_cons_of_failure (h : (one x).2 ≠ .success) (items : List α) :
    each one (x :: items) = one x := by
  rw [each]
  split
  · rename_i effects heq
    exact absurd (congrArg Prod.snd heq) h
  · rfl

theorem each_singleton (one : α → Effects × Exit) (x : α) : each one [x] = one x := by
  by_cases h : (one x).2 = .success
  · rw [each_cons_of_success h]
    exact Prod.ext (Effects.append_empty _) h.symm
  · exact each_cons_of_failure h []

/-- How items are gone through: some of them succeed, and the first one behind them does not. -/
structure Splits (one : α → Effects × Exit) (items done rest : List α) : Prop where
  all : items = done ++ rest
  succeeds : ∀ x ∈ done, (one x).2 = .success
  stops : ∀ x ∈ rest.head?, (one x).2 ≠ .success

theorem exists_splits (one : α → Effects × Exit) (items : List α) :
    ∃ done rest, Splits one items done rest := by
  induction items with
  | nil => exact ⟨[], [], rfl, nofun, nofun⟩
  | cons x items ih =>
    by_cases h : (one x).2 = .success
    · obtain ⟨done, rest, hsplits⟩ := ih
      exact ⟨x :: done, rest, congrArg (x :: ·) hsplits.all,
        List.forall_mem_cons.mpr ⟨h, hsplits.succeeds⟩, hsplits.stops⟩
    · refine ⟨[], x :: items, rfl, nofun, ?_⟩
      rintro _ ⟨⟩
      exact h

/-- Each item up to the first that fails leaves its part, and those behind it leave nothing. -/
theorem Splits.part_each {part : Effects → List β} (hpart : Effects.IsPart part)
    (h : Splits one items done rest) :
    part (each one items).1 = (done ++ rest.take 1).flatMap fun x => part (one x).1 := by
  obtain ⟨rfl, hsucceeds, hstops⟩ := h
  -- on the items that succeed: behind them `each` is at the one that fails, or at the end
  induction done with
  | nil =>
    cases rest with
    | nil => exact hpart.empty
    | cons x rest =>
      rw [List.nil_append, each_cons_of_failure (hstops x rfl)]
      exact (List.append_nil _).symm
  | cons x done ih =>
    rw [List.forall_mem_cons] at hsucceeds
    rw [List.cons_append, each_cons_of_success hsucceeds.1, hpart.append, ih hsucceeds.2]
    rfl

theorem Splits.exit_each (h : Splits one items done rest) :
    (each one items).2 = (rest.head?.map fun x => (one x).2).getD .success := by
  obtain ⟨rfl, hsucceeds, hstops⟩ := h
  induction done with
  | nil =>
    cases rest with
    | nil => rfl
    | cons x rest =>
      rw [List.nil_append, each_cons_of_failure (hstops x rfl)]
      rfl
  | cons x done ih =>
    rw [List.forall_mem_cons] at hsucceeds
    rw [List.cons_append, each_cons_of_success hsucceeds.1]
    exact ih hsucceeds.2

end

/-! ## Lines -/

/-- What standard error shows of texts. -/
def complaints (texts : List Text) : Text := texts.flatMap fun t => escaped (line t)

theorem each_write_err (texts : List Text) (lines : List Line) :
    each write (texts.map .err ++ lines) =
      (({ err := complaints texts } : Effects) ++ (each write lines).1, (each write lines).2) := by
  induction texts with
  | nil => rfl
  | cons t texts ih =>
    rw [List.map_cons, List.cons_append, each_cons_of_success rfl, ih, ← Effects.append_assoc]
    rfl

/-! ## One app -/

/-- What is said about an app on standard error, however the search for it ends. -/
def remarks (name : Text) : Except (Fetch.Failure Trouble) Resolution → List Text
  | .ok r => attemptLines r.attempts
  | .error (.expected trouble) => trouble.lines name
  | .error (.breakdown _) => []

/-- What is written of an app on standard output: a document if it is found. -/
def answer : Except (Fetch.Failure Trouble) Resolution → Text
  | .ok r => page r
  | .error _ => []

section

variable {what : Discover} (hjson : what.json = true)

include hjson

theorem each_write_linesOf (name : Text) (outcome : Except (Fetch.Failure Trouble) Resolution) :
    each write (linesOf what name outcome) =
      ({ out := answer outcome, err := complaints (remarks name outcome) }, .success) := by
  cases outcome with
  | ok r =>
    rw [linesOf, told, if_pos hjson, each_write_err, each_singleton, write_document]
    refine Prod.ext ?_ rfl
    exact congrArg (Effects.mk (page r) · [] []) (List.append_nil _)
  | error failure =>
    cases failure with
    | expected trouble =>
      have hwrite := each_write_err (trouble.lines name) []
      rw [List.append_nil] at hwrite
      rw [linesOf, hwrite]
      exact Prod.ext (Effects.append_empty _) rfl
    | breakdown cause => rfl

theorem discoverOne_json (setting : Setting) (logging : Log.State) (name : Text) :
    discoverOne setting logging what name =
      ({ out := answer (search setting what name).outcome
         err := complaints (remarks name (search setting what name).outcome)
         requests := (search setting what name).requests
         logs := written (logging.bind [(appField, .text name)]) (search setting what name).records },
        if (search setting what name).outcome.isOk then .success else .failure) := by
  rw [discoverOne, each_write_linesOf hjson]
  refine Prod.ext ?_ rfl
  show Effects.mk _ _ ((search setting what name).requests ++ []) (_ ++ []) = _
  rw [List.append_nil, List.append_nil]
  rfl

theorem discoverOne_eq_success_iff {setting : Setting} {logging : Log.State} {name : Text} :
    (discoverOne setting logging what name).2 = .success ↔
      ∃ r, (search setting what name).outcome = .ok r := by
  rw [discoverOne_json hjson]
  cases (search setting what name).outcome with
  | ok r => exact ⟨fun _ => ⟨r, rfl⟩, fun _ => rfl⟩
  | error failure => exact ⟨nofun, nofun⟩

end

/-! ## One app alone -/

/-- A command with one app. -/
def Discover.only (what : Discover) (name : Text) : Discover := { what with names := [name] }

/-- The search for an app does not see the others. -/
theorem search_only (setting : Setting) (what : Discover) (name other : Text) :
    search setting (what.only other) name = search setting what name := rfl

/-- What a command leaves if it is given one app only. -/
def alone (setting : Setting) (verbose : Bool) (what : Discover) (name : Text) : Effects × Exit :=
  run setting (.discover verbose (what.only name))

/-- How the only app of a command is told of. -/
structure TellsOf (setting : Setting) (verbose : Bool) (what : Discover) (name : Text) : Prop where
  requests : (alone setting verbose what name).1.requests =
    (search setting (what.only name) name).requests
  err : (alone setting verbose what name).1.err =
    complaints (remarks name (search setting (what.only name) name).outcome)
  /-- Of an app that is found, a reader gets the answer, as it is unless halves of pairs meet in it. -/
  found : ∀ r, (search setting (what.only name) name).outcome = .ok r →
    (alone setting verbose what name).2 = .success ∧
      Json.ofText? (alone setting verbose what name).1.out = some (documentIn Json.paired r) ∧
      (Json.ofText? (alone setting verbose what name).1.out = some (document r) ↔
        ∀ t ∈ values r, Json.HalvesApart t)
  failed : ∀ failure, (search setting (what.only name) name).outcome = .error failure →
    (alone setting verbose what name).2 = .failure ∧ (alone setting verbose what name).1.out = []

section

variable (setting : Setting) (verbose : Bool) (what : Discover)

/-- A command logs the warnings of its configuration before anything else. -/
theorem alone_eq (name : Text) :
    alone setting verbose what name =
      (({ logs := written (loggingOf setting verbose)
            (Fetch.Config.ofEnvironment setting.environment).2 } : Effects) ++
          (discoverOne setting (loggingOf setting verbose) what name).1,
        (discoverOne setting (loggingOf setting verbose) what name).2) := by
  rw [← each_singleton (discoverOne setting (loggingOf setting verbose) what) name]
  rfl

theorem tellsOf (hjson : what.json = true) (name : Text) : TellsOf setting verbose what name := by
  have halone := alone_eq setting verbose what name
  rw [discoverOne_json hjson] at halone
  constructor
  case requests =>
    rw [halone]
    rfl
  case err =>
    rw [halone]
    rfl
  case found =>
    intro r hr
    rw [search_only] at hr
    rw [halone, hr]
    exact ⟨rfl, ofText?_page r, ofText?_page_eq_document_iff⟩
  case failed =>
    intro failure hfailure
    rw [search_only] at hfailure
    rw [halone, hfailure]
    exact ⟨rfl, rfl⟩

end

/-! ## Apps one after another -/

/-- How the apps of a command are told of: those in `done` are found, the first of `rest` is not, and
    nobody looks for the others. -/
structure TellsInOrder (setting : Setting) (verbose : Bool) (what : Discover) (done rest : List Text) :
    Prop where
  names : what.names = done ++ rest
  found : ∀ name ∈ done, ∃ r, (search setting (what.only name) name).outcome = .ok r
  stopped : ∀ name ∈ rest.head?, ∃ failure,
    (search setting (what.only name) name).outcome = .error failure
  /-- How each of them would be told of if there were no others. -/
  each : ∀ name ∈ what.names, TellsOf setting verbose what name
  requests : (run setting (.discover verbose what)).1.requests =
    (done ++ rest.take 1).flatMap fun name => (alone setting verbose what name).1.requests
  out : (run setting (.discover verbose what)).1.out =
    done.flatMap fun name => (alone setting verbose what name).1.out
  err : (run setting (.discover verbose what)).1.err =
    (done ++ rest.take 1).flatMap fun name => (alone setting verbose what name).1.err
  exit : (run setting (.discover verbose what)).2.code = if rest = [] then 0 else 1

theorem tellsInOrder_of_splits {setting : Setting} {verbose : Bool} {what : Discover}
    {done rest : List Text} (hjson : what.json = true)
    (h : Splits (discoverOne setting (loggingOf setting verbose) what) what.names done rest) :
    TellsInOrder setting verbose what done rest := by
  have halone := alone_eq setting verbose what
  have hfailed : ∀ name ∈ rest.head?, ∃ failure, (search setting what name).outcome = .error failure := by
    intro name hname
    have hstop := mt (discoverOne_eq_success_iff hjson).mpr (h.stops name hname)
    cases hsearch : (search setting what name).outcome with
    | ok r => exact absurd ⟨r, hsearch⟩ hstop
    | error failure => exact ⟨failure, rfl⟩
  constructor
  case names => exact h.all
  case found =>
    intro name hname
    exact (discoverOne_eq_success_iff hjson).mp (h.succeeds name hname)
  case stopped => exact hfailed
  case each => exact fun name _ => tellsOf setting verbose what hjson name
  case requests =>
    simp only [halone]
    exact h.part_each Effects.isPart_requests
  case err =>
    simp only [halone]
    exact h.part_each Effects.isPart_err
  case out =>
    -- the app that is not found leaves nothing here
    have hnothing : (rest.take 1).flatMap (fun name => (alone setting verbose what name).1.out) = [] := by
      refine List.flatMap_eq_nil_iff.mpr fun name hname => ?_
      rw [List.take_one, Option.mem_toList] at hname
      obtain ⟨failure, hfailure⟩ := hfailed name hname
      exact ((tellsOf setting verbose what hjson name).failed failure hfailure).2
    rw [← List.append_nil (done.flatMap _), ← hnothing, ← List.flatMap_append]
    simp only [halone]
    exact h.part_each Effects.isPart_out
  case exit =>
    have hexit : (run setting (.discover verbose what)).2 = _ := h.exit_each
    rw [hexit]
    cases rest with
    | nil => rfl
    | cons name rest =>
      obtain ⟨failure, hfailure⟩ := hfailed name rfl
      have hcode := ((tellsOf setting verbose what hjson name).failed failure hfailure).1
      rw [halone] at hcode
      rw [List.head?_cons, Option.map_some, Option.getD_some, if_neg (List.cons_ne_nil _ _)]
      exact congrArg Exit.code hcode

/-- **Discovering in order.**  With JSON, apps are told of one after another, each as if it were the only
    one, up to the first that is not found.  Standard output holds one document for each app before it,
    from which its answer is read, and the command succeeds if all of its apps are found. -/
theorem exists_tellsInOrder (setting : Setting) (verbose : Bool) (what : Discover)
    (hjson : what.json = true) : ∃ done rest, TellsInOrder setting verbose what done rest := by
  obtain ⟨done, rest, hsplits⟩ :=
    exists_splits (discoverOne setting (loggingOf setting verbose) what) what.names
  exact ⟨done, rest, tellsInOrder_of_splits hjson hsplits⟩

/-! ## Apps that are found -/

/-- A search finds what the resolution of its app, with the labels of the platform, comes to. -/
theorem outcome_search_eq_ok_iff {setting : Setting} {what : Discover} {name : Text} {r : Resolution} :
    (search setting what name).outcome = .ok r ↔
      ∃ app labelled, App.ofText? name = .ok app ∧
        withPlatform setting.platform app = .ok labelled ∧
        ((clientOf setting what).resolve labelled what.tag what.allowance).outcome = .ok r := by
  rw [search, Run.outcome_bind_eq_ok_iff]
  constructor
  · rintro ⟨app, happ, h⟩
    rw [Run.outcome_mapError_eq_ok_iff] at h
    obtain ⟨labelled, hlabelled, h⟩ := Run.outcome_bind_eq_ok_iff.mp h
    exact ⟨app, labelled, eq_ok_of_mapError_eq_ok happ, eq_ok_of_mapError_eq_ok hlabelled, h⟩
  · rintro ⟨app, labelled, happ, hlabelled, h⟩
    refine ⟨app, congrArg (Except.mapError _) happ, ?_⟩
    rw [Run.outcome_mapError_eq_ok_iff]
    exact Run.outcome_bind_eq_ok_iff.mpr ⟨labelled, congrArg (Except.mapError _) hlabelled, h⟩

/-- An app is found if its own page declares images for it and the search for keys does not break down. -/
theorem exists_search_of_images {setting : Setting} {what : Discover} {name : Text}
    {app labelled tagged : App} {declarations : List Declaration} (happ : App.ofText? name = .ok app)
    (hlabelled : withPlatform setting.platform app = .ok labelled)
    (htagged : ∃ t, ((clientOf setting what).resolveTag labelled what.tag what.allowance).outcome = .ok t ∧
      t.app = tagged)
    (hpage : ∃ document,
      ((clientOf setting what).pages what.allowance tagged.name).outcome = .ok document ∧
        Page.declarations document.body = declarations)
    (himages : Declaration.images declarations tagged ≠ [])
    (hkeys : ((clientOf setting what).findKeys tagged what.allowance).outcome.toOption.isSome = true) :
    ∃ r, (search setting what name).outcome = .ok r ∧
      r.images = Declaration.images declarations tagged := by
  obtain ⟨t, ht, rfl⟩ := htagged
  obtain ⟨document, hdocument, rfl⟩ := hpage
  cases hanswer : ((clientOf setting what).findKeys t.app what.allowance).outcome with
  | error failure =>
    rw [hanswer] at hkeys
    exact nomatch hkeys
  | ok answer =>
    have husable : Walk.usable ((clientOf setting what).pages what.allowance) t.app .images t.app.name =
        Declaration.images (Page.declarations document.body) t.app := by
      rw [Walk.usable, hdocument]
      rfl
    have hwalk := Walk.walk_of_usable (husable ▸ himages)
    have hresolve := Client.outcome_resolve_eq_ok_iff.mpr ⟨t, _, _, _, ht, hwalk, hanswer, rfl⟩
    exact ⟨_, outcome_search_eq_ok_iff.mpr ⟨app, labelled, happ, hlabelled, hresolve⟩, husable⟩

/-! ## At a site -/

/-- A machine, and servers that are a site with one declaration of images. -/
def settingOf (template : Text) : Setting where
  environment := {}
  platform := ⟨"Linux", "x86_64"⟩
  server := (({} : Site).addDeclarations "example.com/a" "https"
    [⟨"ac-discovery", "example.com", template⟩]).reply
  logging := {}

def bare : App := ⟨"example.com/a", {}, by decide, by decide⟩

/-- The app of the site with the labels of the machine. -/
def labelled : App :=
  ⟨"example.com/a", ⟨[("os", "linux"), ("arch", "amd64")], by decide⟩, by decide, by decide⟩

theorem ofText?_bare : App.ofText? "example.com/a" = .ok bare := by
  decide +kernel

theorem withPlatform_bare : withPlatform ⟨"Linux", "x86_64"⟩ bare = .ok labelled := by
  decide +kernel

/-- A command for two apps of which the site has the first, and for the first again. -/
def thrice : Discover := { names := ["example.com/a", "example.com/b", "example.com/a"], json := true }

theorem exists_search_thrice :
    ∃ r, (search (settingOf "https://example.com/{name}.{ext}") thrice "example.com/a").outcome = .ok r := by
  have hpage : ∃ document, ((clientOf (settingOf "https://example.com/{name}.{ext}") thrice).pages .none
      "example.com/a").outcome = .ok document ∧ Page.declarations document.body =
        [⟨"ac-discovery", "example.com", "https://example.com/{name}.{ext}"⟩] :=
    exists_of_toOption_any_decide (by decide +kernel)
  have hsorted : labelled.labels.sorted =
      ([("arch", "amd64"), ("os", "linux")] : List (Text × Text)) :=
    Mapping.sorted_eq (by decide) (by decide)
  have himages : (Declaration.images
      [⟨"ac-discovery", "example.com", "https://example.com/{name}.{ext}"⟩] labelled).length = 1 := by
    rw [Declaration.images, App.substitutes, hsorted]
    decide +kernel
  have hne := List.ne_nil_of_length_pos (himages ▸ Nat.one_pos)
  obtain ⟨r, hr, -⟩ := exists_search_of_images ofText?_bare withPlatform_bare
    ⟨⟨labelled, none, []⟩, rfl, rfl⟩ hpage hne (by decide +kernel)
  exact ⟨r, hr⟩

theorem tellsInOrder_one_of_three :
    thrice.json = true ∧
      TellsInOrder (settingOf "https://example.com/{name}.{ext}") false thrice ["example.com/a"]
        ["example.com/b", "example.com/a"] := by
  have hsecond : (search (settingOf "https://example.com/{name}.{ext}") thrice
      "example.com/b").outcome.toOption.isSome = false := by
    decide +kernel
  obtain ⟨r, hr⟩ := exists_search_thrice
  generalize settingOf "https://example.com/{name}.{ext}" = setting at *
  obtain ⟨done, rest, h⟩ := exists_tellsInOrder setting false thrice rfl
  refine ⟨rfl, ?_⟩
  have hnames := h.names
  match done, hnames with
  | [], hnames =>
    subst hnames
    obtain ⟨failure, hfailure⟩ := h.stopped "example.com/a" rfl
    exact nomatch hr.symm.trans hfailure
  | [_], hnames =>
    obtain ⟨rfl, rfl⟩ := List.cons.inj hnames
    exact h
  | _ :: name :: _, hnames =>
    obtain ⟨-, htail⟩ := List.cons.inj hnames
    have hname : "example.com/b" = name := (List.cons.inj htail).1
    obtain ⟨r', hr'⟩ := h.found name (List.mem_cons_of_mem _ List.mem_cons_self)
    rw [search_only, ← hname] at hr'
    rw [hr'] at hsecond
    exact nomatch hsecond

/-- The halves of U+1F600. -/
def high : Fin 2048 := ⟨0x3D, by decide⟩

def low : Fin 2048 := ⟨0x600, by decide⟩

/-- A command for an app with a tag of two halves that do not meet. -/
def halved : Discover :=
  { names := ["example.com/a"], json := true, tag := some [.lone low, .lone high] }

/-- The app of the site with the tag as its version. -/
def versioned : App :=
  ⟨"example.com/a", ⟨[("os", "linux"), ("arch", "amd64"), ("version", [.lone low, .lone high])],
    by decide⟩, by decide, by decide⟩

/-- The tag twice: in the middle its halves meet. -/
def doubled : Text :=
  Text.ofString "https://example.com/" ++
    ([.lone low, .lone high, .lone low, .lone high] ++ Text.ofString ".aci")

theorem exists_search_halved :
    ∃ r, (search (settingOf "https://example.com/{version}{version}.{ext}") halved
        "example.com/a").outcome = .ok r ∧ doubled ∈ values r := by
  have htagged : ∃ t, ((clientOf (settingOf "https://example.com/{version}{version}.{ext}")
      halved).resolveTag labelled halved.tag .none).outcome = .ok t ∧ t.app = versioned :=
    exists_of_toOption_any_decide (by decide +kernel)
  have hpage : ∃ document, ((clientOf (settingOf "https://example.com/{version}{version}.{ext}")
      halved).pages .none "example.com/a").outcome = .ok document ∧ Page.declarations document.body =
        [⟨"ac-discovery", "example.com", "https://example.com/{version}{version}.{ext}"⟩] :=
    exists_of_toOption_any_decide (by decide +kernel)
  have hsorted : versioned.labels.sorted =
      ([("arch", "amd64"), ("os", "linux"), ("version", [.lone low, .lone high])] :
        List (Text × Text)) :=
    Mapping.sorted_eq (by decide) (by decide)
  have himages : Declaration.images
      [⟨"ac-discovery", "example.com", "https://example.com/{version}{version}.{ext}"⟩] versioned =
        [⟨doubled, doubled ++ Text.ofString ".asc"⟩] := by
    rw [Declaration.images, App.substitutes, hsorted]
    decide +kernel
  have hne := himages ▸ List.cons_ne_nil _ _
  obtain ⟨r, hr, hfound⟩ := exists_search_of_images ofText?_bare withPlatform_bare htagged hpage hne
    (by decide +kernel)
  refine ⟨r, hr, ?_⟩
  rw [values, hfound, himages]
  exact List.mem_append_left _ (List.mem_append_right _ List.mem_cons_self)

/-- Where halves of a pair meet, a reader gets another place than the one that was found. -/
theorem exists_answer_not_verbatim :
    ¬ ∀ (setting : Setting) (verbose : Bool) (what : Discover) (name : Text) (r : Resolution),
      what.json = true → (search setting (what.only name) name).outcome = .ok r →
        Json.ofText? (alone setting verbose what name).1.out = some (document r) := by
  intro h
  obtain ⟨r, hr, hvalue⟩ := exists_search_halved
  generalize settingOf "https://example.com/{version}{version}.{ext}" = setting at *
  have hfound := (tellsOf setting false halved rfl "example.com/a").found r hr
  have hapart := hfound.2.2.mp (h setting false halved _ r rfl hr) doubled hvalue
  have hbelow := hapart high low ⟨Text.ofString "https://example.com/" ++ [.lone low],
    .lone high :: Text.ofString ".aci", rfl⟩ (by decide)
  exact absurd hbelow (by decide)

end CommandLine

end ImageDiscovery
