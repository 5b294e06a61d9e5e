import ImageDiscovery.Log.Setup

/-!
# Setups — what a setup that fails leaves behind

Logging is set up, bound to fields and written to, in any order and any number of times, and some of
these steps fail.  There is one handler at all times.  A setup that fails has put a new one in its place,
so records are written in the form that it chose until the next setup; nothing else has changed.
-/

namespace ImageDiscovery

namespace Log

/-! ## Steps and runs -/

/-- What is done to logging; a record is written in an environment, as it may set logging up. -/
inductive Step where
  | configure (env : Environment) (setup : Setup)
  | bind (fields : List (Text × Json))
  | emit (env : Environment) (record : Record)

namespace State

/-- The state after a step, whether the step failed or not. -/
def step (state : State) : Step → State
  | .configure env setup => (state.configure env setup).1
  | .bind fields => state.bind fields
  | .emit env record => (state.emit env record).1

def run (state : State) (steps : List Step) : State := steps.foldl step state

/-- What may have become of logging that was not set up at first. -/
def Reachable (state : State) : Prop := ∃ steps, state = run {} steps

end State

/-- The form that records have after a setup. -/
def Setup.chosenForm (s : Setup) (env : Environment) : Form :=
  if s.formText env = "json" then .json else .console

namespace State

variable {env : Environment} {setup : Setup} {state : State} {e : SetupError}

/-! ## One setup -/

/-- A setup takes effect if there was none before or it is forced. -/
def Takes (state : State) (setup : Setup) : Prop := state.configured = false ∨ setup.force = true

theorem configure_of_not_takes (h : ¬ state.Takes setup) (env : Environment) :
    state.configure env setup = (state, none) := by
  rw [Takes, not_or, Bool.not_eq_false, Bool.not_eq_true] at h
  rw [configure, h.1, h.2]
  rfl

/-- What was installed before a setup that takes effect makes no difference to it. -/
theorem configure_of_takes (h : state.Takes setup) (env : Environment) :
    state.configure env setup = match levelOf (setup.levelText env) with
      | .error e => ({ state with handlers := [setup.chosenForm env] }, some e)
      | .ok rank => ({
          configured := true
          threshold := rank
          handlers := [setup.chosenForm env]
          context := state.context.insert serviceField (.text (setup.serviceText env)) }, none) := by
  have hgoes : ¬ (state.configured && !setup.force) = true := by
    obtain h | h := h <;> simp [h]
  rw [configure, if_neg hgoes]
  rfl

theorem configure_withHandlers (h : state.Takes setup) (handlers : List Form) (env : Environment) :
    configure env setup { state with handlers } = state.configure env setup := by
  have h' : Takes { state with handlers } setup := h
  rw [configure_of_takes h, configure_of_takes h']

/-- A setup fails exactly if it takes effect and its least severity is none. -/
theorem configure_eq_error_iff :
    (state.configure env setup).2 = some e ↔
      state.Takes setup ∧ levelOf (setup.levelText env) = .error e := by
  by_cases htakes : state.Takes setup
  · rw [configure_of_takes htakes]
    cases levelOf (setup.levelText env) <;> simp [htakes]
  · rw [configure_of_not_takes htakes]
    simp [htakes]

/-! ## One handler -/

/-- One handler writes all records. -/
def OneHandler (state : State) : Prop := ∃ form, state.handlers = [form]

theorem OneHandler.configure (h : state.OneHandler) (env : Environment) (setup : Setup) :
    (state.configure env setup).1.OneHandler := by
  by_cases htakes : state.Takes setup
  · rw [configure_of_takes htakes]
    cases levelOf (setup.levelText env) <;> exact ⟨_, rfl⟩
  · rw [configure_of_not_takes htakes]
    exact h

theorem fst_emit (env : Environment) (record : Record) (state : State) :
    (state.emit env record).1 = (state.configure env {}).1 := by
  unfold emit
  split <;> rename_i heq <;> rw [heq]

theorem OneHandler.step (h : state.OneHandler) (s : Step) : (state.step s).OneHandler := by
  cases s with
  | configure env setup => exact h.configure env setup
  | bind fields => exact h
  | emit env record =>
    rw [State.step, fst_emit]
    exact h.configure env {}

theorem OneHandler.run (h : state.OneHandler) (steps : List Step) : (state.run steps).OneHandler := by
  induction steps generalizing state with
  | nil => exact h
  | cons s steps ih => exact ih (h.step s)

theorem Reachable.oneHandler (h : state.Reachable) : state.OneHandler := by
  obtain ⟨steps, rfl⟩ := h
  exact OneHandler.run ⟨.console, rfl⟩ steps

/-! ## Setups that fail -/

/-- **What a failed setup changes.**  A setup fails if it takes effect and its least severity is none.
    Then the handler has the form that was chosen, the number of handlers and all else are as before, and
    the next setup that takes effect goes as if this one had not been tried. -/
theorem configure_of_error (hreach : state.Reachable)
    (h : (state.configure env setup).2 = some e) :
    let after := (state.configure env setup).1
    levelOf (setup.levelText env) = .error e ∧ (state.configured = true → setup.force = true) ∧
      after.configured = state.configured ∧ after.threshold = state.threshold ∧
      after.context = state.context ∧ after.handlers.length = state.handlers.length ∧
      after.handlers = [setup.chosenForm env] ∧
      (after = state ↔ state.handlers = [setup.chosenForm env]) ∧
      ∀ env' setup', state.Takes setup' → after.configure env' setup' = state.configure env' setup' := by
  intro after
  obtain ⟨htakes, hlevel⟩ := configure_eq_error_iff.mp h
  have hafter : after = { state with handlers := [setup.chosenForm env] } := by
    show (state.configure env setup).1 = _
    rw [configure_of_takes htakes, hlevel]
  obtain ⟨form, hone⟩ := hreach.oneHandler
  have hforced : state.configured = true → setup.force = true := by
    intro hconfigured
    obtain hfirst | hforce := htakes
    · exact nomatch hconfigured.symm.trans hfirst
    · exact hforce
  rw [hafter]
  have hsame : { state with handlers := [setup.chosenForm env] } = state ↔
      state.handlers = [setup.chosenForm env] := by
    constructor
    · intro heq
      exact (congrArg handlers heq).symm
    · intro heq
      rw [← heq]
  refine ⟨hlevel, hforced, rfl, rfl, rfl, by rw [hone]; rfl, rfl, hsame, ?_⟩
  intro env' setup' htakes'
  exact configure_withHandlers htakes' _ env'

/-- Logging that was set up for people to read, at `INFO`. -/
def readable : State := run {} [.configure {} { form := some "console", level := some "INFO" }]

/-- A forced setup for JSON whose least severity is none. -/
def misnamed : Setup := { form := some "json", level := some "verbose", force := true }

theorem levelOf_misnamed : levelOf (misnamed.levelText {}) = .error (.unknownName "verbose") := by
  have h : (configure {} misnamed {}).2 = some (.unknownName "verbose") := by decide +kernel
  exact (configure_eq_error_iff.mp h).2

theorem configure_misnamed (state : State) :
    state.configure {} misnamed =
      ({ state with handlers := [.json] }, some (.unknownName "verbose")) := by
  rw [configure_of_takes (.inr rfl), levelOf_misnamed]
  rfl

theorem configure_of_error_misnamed :
    readable.Reachable ∧ (readable.configure {} misnamed).2 = some (.unknownName "verbose") ∧
      (readable.configure {} misnamed).1.handlers = [.json] ∧ readable.handlers = [.console] ∧
      (readable.configure {} misnamed).1.context = readable.context := by
  have hreach : readable.Reachable := ⟨_, rfl⟩
  have herror : (readable.configure {} misnamed).2 = some (.unknownName "verbose") := by
    rw [configure_misnamed]
  obtain ⟨-, -, -, -, hcontext, -, hhandlers, -⟩ := configure_of_error hreach herror
  exact ⟨hreach, herror, hhandlers, by decide, hcontext⟩

/-- A setup that fails may change the form of the records that follow. -/
theorem exists_setup_fails_and_changes :
    ¬ ∀ (steps : List Step) (env : Environment) (setup : Setup) (e : SetupError),
      ((run {} steps).configure env setup).2 = some e →
        ((run {} steps).configure env setup).1 = run {} steps := by
  intro h
  have hsame : (readable.configure {} misnamed).1 = readable :=
    h _ {} misnamed (.unknownName "verbose") (congrArg Prod.snd (configure_misnamed readable))
  rw [configure_misnamed] at hsame
  have hform : [Form.json] ≠ readable.handlers := by decide
  exact hform (congrArg handlers hsame)

end State

end Log

end ImageDiscovery
