import Manuscript.Image.Tool
import Manuscript.Tools

/-! Conversion of images to PNG, one by one or all those of a folder. -/

namespace Manuscript

/-- What images are converted with. -/
structure ImageConverter where
  /-- The tools with their programs, those first that are preferred. -/
  tools : List (ImageTool × Path) := []
  /-- How long a conversion may take. -/
  limit : Duration := .ofSeconds 30
  deriving DecidableEq

/-- What became of one image among many. -/
structure ImageOutcome where
  /-- The image. -/
  input : Path
  /-- Where the PNG was written, or why there is none. -/
  result : Except ConvertError Path

namespace ImageConverter

/-- A converter with every tool that is found. -/
def detect (environment : Environment) : ImageConverter :=
  { tools := ImageTool.all.filterMap fun tool =>
      (environment.firstProgram? tool.programs).map fun program => (tool, program) }

/-- The converter with one more tool, behind the others. -/
def withTool (converter : ImageConverter) (tool : ImageTool) (program : Path) : ImageConverter :=
  { converter with tools := converter.tools ++ [(tool, program)] }

/-- There is a tool to convert with. -/
def isReady (converter : ImageConverter) : Bool := !converter.tools.isEmpty

/-- The tool for an extension, and its program. -/
def toolFor (converter : ImageConverter) (extension : List Char) :
    Except ConvertError (ImageTool × Path) :=
  match converter.tools.find? fun entry => entry.1.handles extension with
  | some entry => .ok entry
  | none =>
    .error (.image ("no tool can convert ." ++ String.ofList extension ++
      " images; install ImageMagick"))

/-- What is said when there is no image at a path. -/
def missingReason : String := "no such image file"

/-- What is said of a tool that did not succeed. -/
def failureReason (tool : ImageTool) (input : Path) (status : ExitStatus) : String :=
  tool.name ++ " could not convert '" ++ input.text ++ "' (" ++ status.text ++ ")"

/-- Converts an image, and tells where the PNG was written. -/
def convert (converter : ImageConverter) (outputDir? : Option Path) (input : Path) :
    Task (Except ConvertError Path) := do
  -- The image comes first: a missing one is told before a missing tool.
  if ← Task.isFile input then
    match converter.toolFor (lowerExtension input) with
    | .error error => return .error error
    | .ok (tool, program) =>
      let output := pngPath input outputDir?
      -- Tools write into folders, but make none.
      match ← Task.makeRoomFor output with
      | .error error => return .error error
      | .ok () =>
        match ← runTool tool.name
          { program, arguments := tool.arguments input output, limit := converter.limit } with
        | .error error => return .error error
        | .ok (.exited 0) => return .ok output
        | .ok status => return .error (.image (failureReason tool input status))
  else return .error (.io input missingReason)

/-- Converts an image among many: a failure is told in a warning. -/
def convertOne (converter : ImageConverter) (outputDir? : Option Path) (input : Path) :
    Task ImageOutcome := do
  let result ← converter.convert outputDir? input
  match result with
  | .ok _ => return ⟨input, result⟩
  | .error error => .warn error.message (return ⟨input, result⟩)

/-- The files among some paths that are images to be converted. -/
def imagesAmong : List Path → Task (List Path)
  | [] => return []
  | path :: rest => do
    -- Only names of images are asked about.
    let isImage ← if needsConversion path then Task.isFile path else pure false
    let more ← imagesAmong rest
    return if isImage then path :: more else more

/-- Converts the images of a folder in the order of their names; none below it is converted. -/
def convertFolder (converter : ImageConverter) (outputDir? : Option Path) (folder : Path) :
    Task (Except ConvertError (List ImageOutcome)) :=
  .list folder fun answer => do
    match answer with
    | .error fault => return .error (.io folder fault.message)
    | .ok names =>
      -- Folders list their names in no order.
      let sorted := names.mergeSort fun a b => !decide (b < a)
      let images ← imagesAmong (sorted.map fun name => folder.join ⟨name⟩)
      return .ok (← Task.each (converter.convertOne outputDir?) images)

end ImageConverter

end Manuscript
