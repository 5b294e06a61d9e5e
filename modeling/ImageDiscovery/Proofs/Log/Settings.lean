import ImageDiscovery.Proofs.Log.Setup

/-!
# Settings — what logging is set to after any run

Each setting comes from the argument that was given for it, or else from the environment, or else it is
the default.  Whatever was done to logging before, a setup that takes effect and does not fail decides all
settings anew and keeps the rest of the context; any other setup changes nothing once logging is set up.
-/

namespace ImageDiscovery

namespace Log

/-! ## Where a setting comes from -/

/-- An argument that says something goes before the environment, and that before the default. -/
inductive Decides (argument setting : Option Text) (fallback : Text) : Text → Prop where
  | argument (given : Text) (hgiven : argument = some given) (hword : given ≠ []) :
    Decides argument setting fallback given
  | environment (held : Text) (hopen : argument = none ∨ argument = some [])
    (hheld : setting = some held) : Decides argument setting fallback held
  | default (hopen : argument = none ∨ argument = some []) (hunset : setting = none) :
    Decides argument setting fallback fallback

variable {argument setting : Option Text} {fallback text : Text}

theorem choose_of_word {given : Text} (h : given ≠ []) :
    choose (some given) setting fallback = given := by
  have hkeep : (some given).filter (!·.isEmpty) = some given := by simp [h]
  rw [choose, hkeep]

theorem choose_of_open (h : argument = none ∨ argument = some []) :
    choose argument setting fallback = setting.getD fallback := by
  rcases h with rfl | rfl
  all_goals rfl

/-- There is one text that is decided on, and it is the chosen one. -/
theorem decides_iff : Decides argument setting fallback text ↔ text = choose argument setting fallback := by
  constructor
  · intro h
    cases h with
    | argument _ hgiven hword => rw [hgiven, choose_of_word hword]
    | environment _ hopen hheld => rw [choose_of_open hopen, hheld, Option.getD_some]
    | default hopen hunset => rw [choose_of_open hopen, hunset, Option.getD_none]
  · intro h
    subst h
    by_cases hopen : argument = none ∨ argument = some []
    · rw [choose_of_open hopen]
      cases setting with
      | none => exact .default hopen rfl
      | some held => exact .environment held hopen rfl
    · -- an argument that leaves nothing open says something
      cases argument with
      | none => exact absurd (.inl rfl) hopen
      | some given =>
        have hword : given ≠ [] := fun hnil => hopen (.inr (congrArg some hnil))
        rw [choose_of_word hword]
        exact .argument given rfl hword

/-! ## What a setup decides -/

/-- A state after a setup that took effect and did not fail, and the state before it. -/
structure SetBy (env : Environment) (setup : Setup) (before after : State) : Prop where
  configured : after.configured = true
  form : ∃ text, Decides setup.form ((env.get? Environment.logFormat).map Text.lower) "console" text ∧
    after.handlers = [if text = "json" then .json else .console]
  level : ∃ text, Decides setup.level ((env.get? Environment.logLevel).map Text.upper) "WARNING" text ∧
    levelOf text = .ok after.threshold
  service : ∃ text, Decides setup.service (env.get? Environment.serviceName) "acdiscovery" text ∧
    after.context.get? serviceField = some (.text text)
  others : ∀ name, name ≠ serviceField → after.context.get? name = before.context.get? name

namespace State

variable {env : Environment} {setup : Setup} {start state : State}

theorem setBy_configure (htakes : state.Takes setup) (hfine : (state.configure env setup).2 = none) :
    SetBy env setup state (state.configure env setup).1 := by
  cases hlevel : levelOf (setup.levelText env) with
  | error e =>
    have hfails := configure_eq_error_iff.mpr ⟨htakes, hlevel⟩
    rw [hfine] at hfails
    exact nomatch hfails
  | ok rank =>
    rw [configure_of_takes htakes, hlevel]
    constructor
    case configured => rfl
    case form => exact ⟨setup.formText env, decides_iff.mpr rfl, rfl⟩
    case level => exact ⟨setup.levelText env, decides_iff.mpr rfl, hlevel⟩
    case service =>
      refine ⟨setup.serviceText env, decides_iff.mpr rfl, ?_⟩
      show (Mapping.insert _ serviceField _).get? serviceField = _
      rw [Mapping.get?_insert, if_pos rfl]
    case others =>
      intro name hname
      show (Mapping.insert _ serviceField _).get? name = _
      rw [Mapping.get?_insert, if_neg hname]

theorem configured_configure (h : state.configured = true) (env : Environment) (setup : Setup) :
    (state.configure env setup).1.configured = true := by
  by_cases htakes : state.Takes setup
  · rw [configure_of_takes htakes]
    cases levelOf (setup.levelText env) with
    | error e => exact h
    | ok rank => rfl
  · rw [configure_of_not_takes htakes]
    exact h

theorem not_takes_of_configured (h : state.configured = true) (hforce : setup.force = false) :
    ¬ state.Takes setup := by
  simp [Takes, h, hforce]

/-! ## Steps -/

/-- The setup that a step may bring about; a record asks for one that leaves everything open. -/
def setupOf : Step → Option (Environment × Setup)
  | .configure env setup => some (env, setup)
  | .bind _ => none
  | .emit env _ => some (env, {})

/-- Why a step failed. -/
def failure? (state : State) : Step → Option SetupError
  | .configure env setup => (state.configure env setup).2
  | .bind _ => none
  | .emit env record => match (state.emit env record).2 with
    | .error e => some e
    | .ok _ => none

variable {s : Step}

/-- A step with a setup is that setup, as far as the state goes. -/
theorem step_of_setupOf (state : State) (h : setupOf s = some (env, setup)) :
    state.step s = (state.configure env setup).1 ∧
      state.failure? s = (state.configure env setup).2 := by
  cases s with
  | configure env' setup' =>
    cases h
    exact ⟨rfl, rfl⟩
  | bind fields => exact nomatch h
  | emit env' record =>
    cases h
    refine ⟨fst_emit env record state, ?_⟩
    cases hconfigure : state.configure env {} with
    | mk after error? => cases error? <;> simp [failure?, emit, hconfigure]

theorem configured_step (h : state.configured = true) (s : Step) : (state.step s).configured = true := by
  cases s with
  | configure env setup => exact configured_configure h env setup
  | bind fields => exact h
  | emit env record =>
    rw [step, fst_emit]
    exact configured_configure h env {}

theorem configured_run (h : state.configured = true) (steps : List Step) :
    (state.run steps).configured = true := by
  induction steps generalizing state with
  | nil => exact h
  | cons s steps ih => exact ih (configured_step h s)

/-! ## Runs -/

/-- **Settings along every run.**  Logging begins with one handler and is set up, bound to fields and
    written to in any order, and some of these steps may fail.  At all times there is one handler, and
    what is set up stays set up.  From then on a setup that is not forced changes nothing, and does not
    fail.  A setup that takes effect, whoever asks for it, and does not fail decides on all settings by
    its own arguments, its environment and the defaults, and keeps the rest of the context. -/
theorem settings_of_run (hstart : start.OneHandler) (steps : List Step) :
    let state := start.run steps
    state.OneHandler ∧
      (state.configured = true → ∀ more, (start.run (steps ++ more)).configured = true) ∧
      ∀ s env setup, setupOf s = some (env, setup) →
        let after := start.run (steps ++ [s])
        (state.configured = true → setup.force = false → after = state ∧ state.failure? s = none) ∧
        (state.configured = false ∨ setup.force = true → state.failure? s = none →
          SetBy env setup state after) := by
  intro state
  have hsteps : ∀ more, start.run (steps ++ more) = state.run more := fun more => List.foldl_append
  refine ⟨hstart.run steps, ?_, ?_⟩
  · intro hconfigured more
    rw [hsteps]
    exact configured_run hconfigured more
  · intro s env setup hs after
    rcases step_of_setupOf state hs with ⟨hstep, hfailure⟩
    have hafter : after = (state.configure env setup).1 := (hsteps [s]).trans hstep
    rw [hafter, hfailure]
    constructor
    · intro hconfigured hforce
      rw [configure_of_not_takes (not_takes_of_configured hconfigured hforce)]
      exact ⟨rfl, rfl⟩
    · intro htakes hfine
      exact setBy_configure htakes hfine

/-- An environment that asks for records in JSON. -/
def asksForJson : Environment := .ofList [(Environment.logFormat, "JSON")]

/-- A setup that fails, and fields that are bound. -/
def unsettled : List Step := [.configure {} misnamed, .bind [("app", .text "example.com/a")]]

theorem settings_of_run_json :
    let setup : Setup := { level := some "DEBUG" }
    let after := run {} (unsettled ++ [.configure asksForJson setup])
    OneHandler {} ∧ (run {} unsettled).configured = false ∧
      SetBy asksForJson setup (run {} unsettled) after ∧ after.handlers = [.json] ∧
      after.threshold = 10 ∧ after.context.get? serviceField = some (.text "acdiscovery") := by
  intro setup after
  have hstart : OneHandler {} := ⟨.console, rfl⟩
  have hrun : run {} unsettled = bind [("app", .text "example.com/a")] { handlers := [.json] } := by
    show bind _ (configure {} misnamed {}).1 = _
    rw [configure_misnamed]
  have hafter : after = ((run {} unsettled).configure asksForJson setup).1 := by
    show List.foldl step {} (unsettled ++ _) = _
    rw [List.foldl_append]
    rfl
  have hfirst : (run {} unsettled).configured = false := by
    rw [hrun]
    rfl
  have hfine : (run {} unsettled).failure? (.configure asksForJson setup) = none := by
    rw [hrun]
    decide
  have hset := ((settings_of_run hstart unsettled).2.2 _ asksForJson setup rfl).2 (.inl hfirst) hfine
  rcases hset.service with ⟨text, htext, hservice⟩
  have hdefault : text = "acdiscovery" := (decides_iff.mp htext).trans (by decide)
  rw [hdefault] at hservice
  have hseen : after.handlers = [.json] ∧ after.threshold = 10 := by
    rw [hafter, hrun]
    decide
  exact ⟨hstart, hfirst, hset, hseen.1, hseen.2, hservice⟩

end State

end Log

end ImageDiscovery
