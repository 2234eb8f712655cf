import Manuscript.CommandLine.Arguments
import Manuscript.Path

/-! What the program is called for. -/

namespace Manuscript.CommandLine

/-- What the arguments choose about conversions. -/
structure Choices where
  /-- The tokenizer. -/
  tokenizer? : Option String := none
  /-- The configuration. -/
  config? : Option String := none
  /-- The document around the body. -/
  template? : Option String := none
  /-- Reserved characters stay as they are. -/
  plain : Bool := false
  deriving DecidableEq

/-- A thing that the program does. -/
inductive Request where
  /-- Converts a file, and makes a PDF file of the result if a path is given for it. -/
  | convert (input : Path) (output? pdf? : Option Path) (choices : Choices)
  /-- Converts many files. -/
  | batch (inputs : List Path) (outputDir? : Option Path) (choices : Choices)
  /-- Converts images. -/
  | images (paths : List Path) (outputDir? : Option Path)
  /-- Lists what needs no file. -/
  | list
  deriving DecidableEq

/-- A call of the program. -/
structure Invocation where
  /-- A file of settings. -/
  settings? : Option Path
  /-- What is asked for, if anything is. -/
  request? : Option Request
  deriving DecidableEq

/-- The option for a file of settings, which every command has. -/
def settingsOption : OptionForm := { name := "config" }

/-- The options of the commands that convert documents. -/
def choiceOptions : List OptionForm :=
  [{ name := "from" }, { name := "config-name" }, { name := "template" },
   { name := "no-escape", argument := .nothing }]

/-- What the command for one file understands. -/
def convertForm : Form where
  options :=
    [settingsOption, { name := "output", letter? := some 'o' }, { name := "pdf" }] ++ choiceOptions
  least := 1
  most? := some 1

/-- What the command for many files understands. -/
def batchForm : Form where
  options :=
    [settingsOption, { name := "output-dir" },
     { name := "jobs", letter? := some 'j', argument := .count }] ++ choiceOptions
  least := 1
  most? := none

/-- What the command for images understands. -/
def imagesForm : Form where
  options := [settingsOption, { name := "output-dir" }]
  least := 1
  most? := none

/-- What the command that lists understands. -/
def listForm : Form where
  options := [settingsOption]
  least := 0
  most? := some 0

/-- What is understood in front of a command. -/
def programForm : Form where
  options := [settingsOption]
  least := 0
  most? := some 0
  tellsVersion := true

/-- A command. -/
inductive Verb where
  | convert
  | batch
  | images
  | list
  | help
  deriving DecidableEq

namespace Verb

/-- All commands. -/
def all : List Verb := [.convert, .batch, .images, .list, .help]

/-- The name of a command. -/
def name : Verb → String
  | .convert => "convert"
  | .batch => "batch"
  | .images => "images"
  | .list => "list"
  | .help => "help"

/-- The command of a name. -/
def ofName? (name : String) : Option Verb := all.find? (·.name = name)

end Verb

/-- The path that an option gives. -/
def pathOf? (given : Given) (name : String) : Option Path := (given.value? name).map .ofString

/-- What was chosen about conversions. -/
def choicesOf (given : Given) : Choices where
  tokenizer? := given.value? "from"
  config? := given.value? "config-name"
  template? := given.value? "template"
  plain := given.has "no-escape"

/-- Help on commands is asked for, or on a command that there is not. -/
def helpOn (names : List String) : Refusal :=
  match names with
  | [] => .help
  | [name] => if (Verb.ofName? name).isSome then .help else .unknown name
  -- Help is given on one command, so that a second name is too much.
  | name :: next :: _ => .unknown (if (Verb.ofName? name).isSome then next else name)

/-- What a command is called for, and the file of settings that is named behind it. -/
def requestOf (verb : Verb) (arguments : List String) :
    Except Refusal (Option Path × Request) := do
  match verb with
  | .convert =>
    let given ← convertForm.read arguments
    -- The form asks for an operand, so that there is one.
    let input := Path.ofString (given.operands.head?.getD "")
    return (pathOf? given "config",
      .convert input (pathOf? given "output") (pathOf? given "pdf") (choicesOf given))
  | .batch =>
    let given ← batchForm.read arguments
    return (pathOf? given "config",
      .batch (given.operands.map .ofString) (pathOf? given "output-dir") (choicesOf given))
  | .images =>
    let given ← imagesForm.read arguments
    return (pathOf? given "config",
      .images (given.operands.map .ofString) (pathOf? given "output-dir"))
  | .list =>
    let given ← listForm.read arguments
    return (pathOf? given "config", .list)
  | .help => .error (helpOn arguments)

/-- What the arguments from one on call for. A file of settings behind a command counts first. -/
def invocationFrom (progress : Progress) : List String → Except Refusal Invocation
  | [] => do
    let given ← progress.finish programForm
    -- Without any arguments there is nothing to answer.
    if given.options.isEmpty then .error .operands
    else return ⟨pathOf? given "config", none⟩
  | argument :: rest =>
    -- A name is a command unless it is the value of an option.
    let isPlain := progress.waiting?.isNone && !progress.onlyOperands
    match if isPlain then Verb.ofName? argument else none with
    | some verb => do
      let (behind, request) ← requestOf verb rest
      return ⟨behind.or (pathOf? progress.given "config"), some request⟩
    | none => do invocationFrom (← progress.step programForm argument) rest

/-- The arguments with the command for one file in front, if a file comes first. -/
def withCommand (arguments : List String) : List String :=
  match arguments with
  | first :: _ =>
    -- Options in front need a command behind them.
    if first.toList.head? = some '-' ∨ (Verb.ofName? first).isSome then arguments
    else Verb.convert.name :: arguments
  | [] => []

/-- What arguments call for. -/
def invocationOf (arguments : List String) : Except Refusal Invocation :=
  invocationFrom {} (withCommand arguments)

end Manuscript.CommandLine
