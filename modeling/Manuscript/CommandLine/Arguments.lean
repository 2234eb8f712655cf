import Manuscript.Settings.Reader
import Manuscript.Text.Search

/-!
Arguments of a command: options by their names, with or without a value, and operands. An option
may be given once, and all that follows two dashes is an operand.
-/

namespace Manuscript.CommandLine

/-- What an option is given with. -/
inductive Argument where
  /-- Nothing. -/
  | nothing
  /-- Any text. -/
  | text
  /-- A count. -/
  | count
  deriving DecidableEq

/-- An option. -/
structure OptionForm where
  /-- The name, behind two dashes. -/
  name : String
  /-- The letter, behind one dash. -/
  letter? : Option Char := none
  /-- What it is given with. -/
  argument : Argument := .text
  deriving DecidableEq

/-- What a command understands. -/
structure Form where
  /-- The options. -/
  options : List OptionForm
  /-- How many operands there have to be. -/
  least : Nat
  /-- How many operands there may be, if they are limited. -/
  most? : Option Nat
  /-- The version can be asked for. -/
  tellsVersion : Bool := false

/-- Why arguments are no call of a command. -/
inductive Refusal where
  /-- Help is asked for. -/
  | help
  /-- The version is asked for. -/
  | version
  /-- An argument is not understood. -/
  | unknown (argument : String)
  /-- An option lacks its value. -/
  | lacking (name : String)
  /-- An option cannot be given so. -/
  | unfit (name : String)
  /-- An option is given twice. -/
  | repeated (name : String)
  /-- Operands are missing. -/
  | operands
  deriving DecidableEq

/-- Arguments as they were understood. -/
structure Given where
  /-- The options with their values. -/
  options : List (String × String) := []
  /-- The operands. -/
  operands : List String := []
  deriving DecidableEq

namespace Given

/-- The value of an option. -/
def value? (given : Given) (name : String) : Option String := given.options.lookup name

/-- An option is given. -/
def has (given : Given) (name : String) : Bool := (given.value? name).isSome

end Given

/-- How far the arguments have been understood. -/
structure Progress where
  given : Given := {}
  /-- The option that waits for its value. -/
  waiting? : Option OptionForm := none
  /-- Only operands follow. -/
  onlyOperands : Bool := false

namespace Progress

/-- Takes an option with its value. -/
def take (progress : Progress) (option : OptionForm) (value : String) : Except Refusal Progress :=
  -- No option may be given twice, not even one without a value.
  if progress.given.has option.name then .error (.repeated option.name)
  else if option.argument = .count ∧ (Config.Value.countOfText? value.toList).isNone then
    .error (.unfit option.name)
  else
    .ok { progress with
      waiting? := none
      given :=
        { progress.given with options := progress.given.options ++ [(option.name, value)] } }

/-- Takes an operand, if there may be one more. -/
def operand (form : Form) (progress : Progress) (argument : String) : Except Refusal Progress :=
  if form.most?.any (· ≤ progress.given.operands.length) then .error (.unknown argument)
  else
    .ok { progress with
      given := { progress.given with operands := progress.given.operands ++ [argument] } }

/-- Takes an option that has or lacks a value behind it in the same argument. -/
def option (progress : Progress) (option : OptionForm) (value? : Option String) :
    Except Refusal Progress :=
  match option.argument, value? with
  | .nothing, none => progress.take option ""
  | .nothing, some _ => .error (.unfit option.name)
  | _, some value => progress.take option value
  -- The value is the next argument.
  | _, none => .ok { progress with waiting? := some option }

/-- Takes an argument with two dashes, which are left out here. -/
def long (form : Form) (progress : Progress) (text : List Char) : Except Refusal Progress :=
  -- The first equals sign ends the name, and all others belong to the value.
  let name := String.ofList (text.takeWhile (· ≠ '='))
  let value? := (cutAt? ['='] text).map fun parts => String.ofList parts.2
  match form.options.find? (·.name = name) with
  | some found => progress.option found value?
  | none =>
    -- Neither help nor the version takes a value.
    if name = "help" ∧ value?.isNone then .error .help
    else if name = "version" ∧ value?.isNone ∧ form.tellsVersion then .error .version
    else .error (.unknown ("--" ++ String.ofList text))

/-- Takes an argument with one dash, which is left out here. -/
def short (form : Form) (progress : Progress) : List Char → Except Refusal Progress
  | [] => .ok progress
  | letter :: rest =>
    match form.options.find? (·.letter? = some letter) with
    | some found =>
      match found.argument, rest with
      -- Letters without values may share a dash.
      | .nothing, _ => do short form (← progress.option found none) rest
      | _, [] => progress.option found none
      -- Behind a letter the equals sign may be left out.
      | _, '=' :: value => progress.option found (some (String.ofList value))
      | _, value => progress.option found (some (String.ofList value))
    | none =>
      if letter = 'h' then .error .help
      else if letter = 'V' ∧ form.tellsVersion then .error .version
      else .error (.unknown (String.ofList ['-', letter]))

/-- Takes one argument. -/
def step (form : Form) (progress : Progress) (argument : String) : Except Refusal Progress :=
  if progress.onlyOperands then progress.operand form argument
  else
    match argument.toList, progress.waiting? with
    -- A value never starts with a dash, unless the dash is all of it.
    | '-' :: _ :: _, some waiting => .error (.lacking waiting.name)
    | ['-', '-'], none => .ok { progress with onlyOperands := true }
    | '-' :: '-' :: text, none => progress.long form text
    | '-' :: c :: text, none => progress.short form (c :: text)
    | _, some waiting => progress.take waiting argument
    | _, none => progress.operand form argument

/-- What was given, when all arguments have been taken. -/
def finish (form : Form) (progress : Progress) : Except Refusal Given :=
  match progress.waiting? with
  | some waiting => .error (.lacking waiting.name)
  | none =>
    if progress.given.operands.length < form.least then .error .operands else .ok progress.given

end Progress

/-- Understands the arguments of a command. -/
def Form.read (form : Form) (arguments : List String) : Except Refusal Given := do
  (← arguments.foldlM (Progress.step form) {}).finish form

end Manuscript.CommandLine
