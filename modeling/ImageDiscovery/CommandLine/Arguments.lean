import ImageDiscovery.Text.Basic

/-!
# Arguments — options and operands

A command is given words.  A word that begins with a hyphen names options: a long one, with its value
after an equal sign or in the next word, or some short ones in a row, of which the last may have a
value in the same way.  Two hyphens end the options, and every other word is an operand.
-/

namespace ImageDiscovery

namespace CommandLine

/-- An option: what it means, what it is called, and whether it has a value. -/
structure OptionForm (κ : Type) where
  key : κ
  long : Text
  short : Option CodePoint := none
  takesValue : Bool := false

/-- What is given to a command.  The value of an option that takes none is empty. -/
structure Arguments (κ : Type) where
  options : List (κ × Text)
  operands : List Text

inductive Word (κ : Type) where
  | operand
  /-- The options end here. -/
  | ending
  /-- Options, and perhaps one more that takes the next word as its value. -/
  | options (given : List (κ × Text)) (pending : Option κ)
  | unknown

variable {κ : Type}

def findShort? (forms : List (OptionForm κ)) (p : CodePoint) : Option (OptionForm κ) :=
  forms.find? fun form => form.short = some p

def readShort (forms : List (OptionForm κ)) (given : List (κ × Text)) : Text → Word κ
  | [] => .options given none
  | p :: rest =>
    match findShort? forms p with
    | none => .unknown
    | some form =>
      if !form.takesValue then readShort forms (given ++ [(form.key, [])]) rest
      else if rest.isEmpty then .options given (some form.key)
      else .options (given ++ [(form.key, rest)]) none

/-- Reads a long option, which may have its value in the same word. -/
def readLong (form : OptionForm κ) (value : Option Text) : Word κ :=
  match form.takesValue, value with
  | true, some value => .options [(form.key, value)] none
  | true, none => .options [] (some form.key)
  | false, none => .options [(form.key, [])] none
  | false, some _ => .unknown

def readWord (forms : List (OptionForm κ)) (word : Text) : Word κ :=
  if word = "--" then .ending
  else match word with
  | .char '-' :: p :: rest =>
    let (name, value) := word.cut (.char '=')
    match forms.find? fun form => form.long = name with
    | some form => readLong form value
    | none => if p = .char '-' then .unknown else readShort forms [] (p :: rest)
  | _ => .operand

/-- Reads words; `none` if an option is unknown or lacks its value, or has one that it does not take.
Options may come after operands, unless the first operand is to be left with all that follows. -/
def Arguments.read? (forms : List (OptionForm κ)) (mixed : Bool) :
    List Text → Option (Arguments κ)
  | [] => some ⟨[], []⟩
  | word :: rest =>
    match readWord forms word with
    | .unknown => none
    | .ending => some ⟨[], rest⟩
    | .operand =>
      if mixed then
        (read? forms mixed rest).map fun a => { a with operands := word :: a.operands }
      else some ⟨[], word :: rest⟩
    | .options given none =>
      (read? forms mixed rest).map fun a => { a with options := given ++ a.options }
    | .options given (some key) =>
      match rest with
      | [] => none
      | value :: rest =>
        (read? forms mixed rest).map fun a =>
          { a with options := given ++ (key, value) :: a.options }

namespace Arguments

variable [DecidableEq κ]

def has (a : Arguments κ) (key : κ) : Bool := a.options.any fun (k, _) => k = key

def values (a : Arguments κ) (key : κ) : List Text :=
  a.options.filterMap fun (k, value) => if k = key then some value else none

def last? (a : Arguments κ) (key : κ) : Option Text := (a.values key).getLast?

end Arguments

end CommandLine

end ImageDiscovery
