import ImageDiscovery.CommandLine.Command
import ImageDiscovery.Log.Setup
import ImageDiscovery.Platform
import ImageDiscovery.Resolution

/-!
# Command line — what the program does and says

`CommandLine.run` carries out a command.  Apps are resolved one after another, up to the first that
cannot be.  What was found goes to standard output, as text or as one JSON document for each app, and
what went wrong to standard error; the attempts of walks are told among the text or beside the JSON.
-/

namespace ImageDiscovery

namespace CommandLine

def programVersion : Text := "0.3.0"

/-- What a run of the program leaves. -/
structure Effects where
  out : Text := []
  err : Text := []
  requests : List Fetch.Request := []
  logs : List Json := []

namespace Effects

def append (a b : Effects) : Effects :=
  ⟨a.out ++ b.out, a.err ++ b.err, a.requests ++ b.requests, a.logs ++ b.logs⟩

instance : Append Effects := ⟨append⟩

end Effects

/-- How a run of the program ends. -/
inductive Exit where
  | success
  | failure
  | misuse
deriving DecidableEq

def Exit.code : Exit → Nat
  | .success => 0
  | .failure => 1
  | .misuse => 2

/-! ## Lines -/

/-- May a code point stand between the start and the letter of a control sequence? -/
def isParameter (p : CodePoint) : Bool := p.isDigit || p = .char ';' || p = .char '?'

/-- What follows a control sequence: an escape, a bracket, parameters and a letter. -/
def afterControl? (t : Text) : Option Text :=
  if List.isPrefixOf "\x1b[" t then
    match (t.drop 2).dropWhile isParameter with
    | p :: after => if p.isLetter then some after else none
    | [] => none
  else none

theorem length_lt_of_afterControl? {t after : Text} (h : afterControl? t = some after) :
    after.length < t.length := by
  unfold afterControl? at h
  split at h
  · split at h
    · rename_i p last hp
      split at h
      · obtain rfl := Option.some.inj h
        have := (List.dropWhile_sublist isParameter (l := t.drop 2)).length_le
        rw [hp, List.length_cons, List.length_drop] at this
        omega
      · simp at h
    · simp at h
  · simp at h

/-- The text without the sequences that control a terminal. -/
def plain (t : Text) : Text :=
  match t with
  | [] => []
  | p :: rest =>
    match h : afterControl? (p :: rest) with
    | some after =>
      have := length_lt_of_afterControl? h
      plain after
    | none => p :: plain rest
termination_by t.length
decreasing_by
  · assumption
  · exact Nat.lt_succ_self _

def line (t : Text) : Text := plain t ++ [.char '\n']

/-- A text with halves of surrogate pairs as escapes. -/
def escaped (t : Text) : Text :=
  t.flatMap fun p => if p.isChar then [p] else Json.unitEscape p.toNat

/-- A line for standard output or for standard error. -/
inductive Line where
  | out (t : Text)
  | err (t : Text)

/-- Writes a line.  Standard output takes what has a UTF-8 form, and standard error everything. -/
def write : Line → Effects × Exit
  | .out t => if (line t).Encodable then ({ out := line t }, .success) else ({}, .failure)
  | .err t => ({ err := escaped (line t) }, .success)

/-- Goes through items up to the first that fails. -/
def each {α : Type} (one : α → Effects × Exit) : List α → Effects × Exit
  | [] => ({}, .success)
  | x :: rest =>
    match one x with
    | (effects, .success) =>
      let (others, exit) := each one rest
      (effects ++ others, exit)
    | stopped => stopped

def walkName : Kind → Text
  | .tags => "tags"
  | .images => "endpoints"
  | .keys => "public keys"

def attemptLine (kind : Kind) (attempt : Attempt) : Text :=
  "discover " ++ walkName kind ++ " walk: prefix: " ++ attempt.place ++ " error: "
    ++ attempt.error.report.message

def attemptLines (attempts : List (Kind × List Attempt)) : List Text :=
  attempts.flatMap fun (kind, attempts) => attempts.map (attemptLine kind)

/-! ## Answers -/

def document (r : Resolution) : Json :=
  .object [("name", .text r.app.name),
    ("labels", .object (r.app.labels.map Json.text).toList),
    ("aci_endpoints", .array (r.images.map fun e =>
      .object ((e.members .image).map fun (name, value) => (name, .text value)))),
    ("public_keys", .array (r.keys.map Json.text))]

def imageLine (e : Endpoint) : Text := "ACI: " ++ e.artifact ++ ", ASC: " ++ e.signature

def answerLines (what : Discover) (r : Resolution) : List Text :=
  (if (what.tag.filter (!·.isEmpty)).isSome && r.tagDocument.isNone then
    [("no discover tags found" : Text)] else [])
    ++ r.images.map imageLine
    ++ (if r.keys.isEmpty then [] else [("PublicKeys: " : Text) ++ Text.join "," r.keys])

def told (what : Discover) (r : Resolution) : List Line :=
  if what.json then (attemptLines r.attempts).map .err ++ [.out ((document r).toLines 0)]
  else (attemptLines r.attempts ++ answerLines what r).map .out

/-- Why an app is not told of. -/
inductive Trouble where
  /-- The text is not that of an app. -/
  | unread (error : Error)
  | unfound (error : Error)

def Trouble.lines (name : Text) : Trouble → List Text
  | .unread e => [name ++ ": " ++ e.report.message]
  | .unfound e =>
    ("error discovering " ++ name ++ ": " ++ e.report.message) ::
      e.attempts.map fun a => "  prefix: " ++ a.place ++ " error: " ++ a.error.report.message

/-- What is said about an app, however the search for it ends. -/
def linesOf (what : Discover) (name : Text) : Except (Fetch.Failure Trouble) Resolution → List Line
  | .ok r => told what r
  | .error (.expected trouble) => (trouble.lines name).map .err
  | .error (.breakdown _) => []

/-! ## Running -/

/-- What a run depends on besides its words. -/
structure Setting where
  environment : Environment
  platform : Platform
  server : Fetch.Server
  /-- How logging is set up when the program starts. -/
  logging : Log.State

def written (logging : Log.State) (records : List Log.Record) : List Json :=
  records.flatMap fun r => (logging.write r).records

def appField : Text := "app"

/-- The app with the labels of the platform, unless it has its own. -/
def withPlatform (platform : Platform) (app : App) : Except Error App :=
  app.withLabels ((app.labels.insertNew Platform.osLabel platform.os).insertNew Platform.archLabel
    platform.arch)

def Discover.allowance (what : Discover) : Allowance := if what.insecure then .all else .none

/-- The client of a command, with the headers that it was given for hosts. -/
def clientOf (setting : Setting) (what : Discover) : Client where
  hostHeaders := what.hostHeaders
  config := (Fetch.Config.ofEnvironment setting.environment).1
  server := setting.server
  environment := setting.environment

/-- Reads an app and looks for it. -/
def search (setting : Setting) (what : Discover) (name : Text) : Run Trouble Resolution := do
  let app ← Run.ofExcept ((App.ofText? name).mapError (.expected ∘ .unread))
  let resolving : Run Error Resolution := do
    let app ← Run.ofExcept ((withPlatform setting.platform app).mapError .expected)
    (clientOf setting what).resolve app what.tag what.allowance
  resolving.mapError .unfound

/-- Looks for an app and tells of it. -/
def discoverOne (setting : Setting) (logging : Log.State) (what : Discover) (name : Text) :
    Effects × Exit :=
  let searched := search setting what name
  let trace : Effects := {
    requests := searched.requests
    logs := written (logging.bind [(appField, .text name)]) searched.records }
  let (effects, exit) := each write (linesOf what name searched.outcome)
  (trace ++ effects, if searched.outcome.isOk then exit else .failure)

/-- The logging of a command: a verbose one sets it up again. -/
def loggingOf (setting : Setting) (verbose : Bool) : Log.State :=
  if verbose then
    (setting.logging.configure setting.environment { level := some "DEBUG", force := true }).1
  else setting.logging

def discover (setting : Setting) (verbose : Bool) (what : Discover) : Effects × Exit :=
  let logging := loggingOf setting verbose
  let warnings := (Fetch.Config.ofEnvironment setting.environment).2
  let (effects, exit) := each (discoverOne setting logging what) what.names
  (({ logs := written logging warnings } : Effects) ++ effects, exit)

def run (setting : Setting) : Command → Effects × Exit
  | .version => write (.out programVersion)
  | .help => ({}, .success)
  | .misuse => ({}, .misuse)
  | .discover verbose what => discover setting verbose what

end CommandLine

end ImageDiscovery
