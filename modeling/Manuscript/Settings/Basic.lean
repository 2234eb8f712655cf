import Manuscript.Conversion
import Manuscript.Image.Converter
import Manuscript.Latex.Compiler

/-! The settings of the program. -/

namespace Manuscript

/-- What can be set once for all documents. -/
structure Settings where
  /-- The configuration: one that needs no file, or the path of a file. -/
  config : String
  /-- The document around the body: one that needs no file, or the path of a file. -/
  template : String
  /-- Reserved characters are escaped. -/
  escape : Bool
  /-- The sectioning commands, which count if there is one for each level. -/
  headingLevels : List String
  /-- The rules for relative image paths. -/
  imageRules : List PathRule
  /-- How many files may be converted at once. -/
  jobs : Nat
  /-- The engine for PDF files. -/
  engine : LatexEngine
  /-- How many passes the engine may make. -/
  runs : Nat
  /-- How many seconds a pass may take. -/
  passSeconds : Nat
  /-- How many seconds the conversion of an image may take. -/
  imageSeconds : Nat
  deriving DecidableEq

namespace Settings

/-- What is said of sectioning commands that are too few or too many. -/
def headingWarning (count : Nat) : String :=
  "render.heading_levels needs exactly 5 commands, got " ++ toString count ++ "; using the defaults"

/-- How constructs are rendered. -/
def renderOptions (settings : Settings) : Task RenderOptions :=
  let with_ (headings : HeadingCommands) : Task RenderOptions :=
    .done { escape := settings.escape, headings, imageRules := settings.imageRules }
  -- Too few or too many commands are as good as none.
  match HeadingCommands.ofList? settings.headingLevels with
  | some headings => with_ headings
  | none => .warn (headingWarning settings.headingLevels.length) (with_ .standard)

/-- How documents are converted. -/
def convertOptions (settings : Settings) : Task ConvertOptions := do
  return { config := .named settings.config
           template := .named settings.template
           render := ← settings.renderOptions }

/-- How PDF files are made. -/
def compiler (settings : Settings) : Compiler :=
  Compiler.withRuns
    { engine := settings.engine, limit := .ofSeconds settings.passSeconds } settings.runs

/-- What images are converted with: the tools that are found. -/
def imageConverter (settings : Settings) (environment : Environment) : ImageConverter :=
  { ImageConverter.detect environment with limit := .ofSeconds settings.imageSeconds }

/-- How many files are converted at once: one at least. -/
def workers (settings : Settings) : Nat := max settings.jobs 1

end Settings

end Manuscript
