import Manuscript.CommandLine.Extras
import Manuscript.CommandLine.Invocation
import Manuscript.Settings.Loader

/-! What the program answers to a call: the work it does, what it prints, and its exit code. -/

namespace Manuscript.CommandLine

/-- What the program prints, and the code it ends with. -/
structure Response where
  /-- The exit code. -/
  code : Nat := 0
  /-- What is printed. -/
  output : String := ""
  /-- What is printed of errors and warnings. -/
  errors : String := ""
  deriving DecidableEq

namespace Response

/-- The response with one more line printed. -/
def say (response : Response) (line : String) : Response :=
  { response with output := response.output ++ line ++ "\n" }

/-- The response with one more line about an error. -/
def tell (response : Response) (line : String) : Response :=
  { response with errors := response.errors ++ line ++ "\n" }

/-- The response with a last line about an error, and the code of a failure. -/
def fail (response : Response) (line : String) : Response :=
  { response.tell line with code := 1 }

end Response

/-- The name of the program. -/
def programName : String := "mdtex"

/-- The version of the program. -/
def versionText : String := "0.1.0"

/-- What is printed when help is asked for. -/
def helpLines : List String :=
  ["Converts markdown to LaTeX through templates.",
   "",
   "Usage: mdtex [--config PATH] <command>",
   "",
   "  <input> [-o FILE] [--pdf FILE]        convert one file",
   "  convert <input> [-o FILE] [--pdf FILE]",
   "  batch <inputs>... [--output-dir DIR]  convert many files",
   "  images <paths>... [--output-dir DIR]  convert images to PNG",
   "  list                                  list what needs no file",
   "",
   "Documents: [--from NAME] [--config-name NAME] [--template NAME] [--no-escape]",
   "           [--extra-<construct> TEMPLATE]"]

/-- The exit code of calls that are not understood. -/
def usageCode : Nat := 2

/-- What is said of a call that is not understood. -/
def usageReason : Refusal → String
  | .help | .version => ""
  | .unknown argument => "unexpected argument '" ++ argument ++ "'"
  | .lacking name => "a value is required for '--" ++ name ++ "'"
  | .unfit name => "the value of '--" ++ name ++ "' is invalid"
  | .repeated name => "'--" ++ name ++ "' cannot be given more than once"
  | .operands => "arguments are missing"

/-- The answer to a call that asks for no work. -/
def refusalResponse : Refusal → Response
  | .help => helpLines.foldl .say {}
  | .version => Response.say {} (programName ++ " " ++ versionText)
  | refusal => { Response.tell {} ("error: " ++ usageReason refusal) with code := usageCode }

/-- The options of a conversion: the settings, what was chosen, and templates over all. -/
def optionsOf (settings : Settings) (choices : Choices) (overrides : ConfigMap) :
    Task ConvertOptions := do
  let options ← settings.convertOptions
  return { options with
    config := (choices.config?.map ConfigSource.named).getD options.config
    template := (choices.template?.map TemplateSource.named).getD options.template
    -- Escaping ends as soon as one of the two does without it.
    render := { options.render with escape := options.render.escape && !choices.plain }
    tokenizer? := choices.tokenizer?.or options.tokenizer?
    overrides := options.overrides.overlay overrides }

/-- Makes the PDF file of a document that was written. Its images are found from where it stands. -/
def makePdf (environment : Environment) (settings : Settings) (written pdf : Path)
    (response : Response) : Task Response := do
  match ← Task.readText written with
  | .error reason =>
    return response.fail ("Error reading file '" ++ written.text ++ "': " ++ reason)
  | .ok source =>
    -- A path without a folder stands in the current one.
    let folder := written.folder?.getD (.ofString ".")
    let compiler := { settings.compiler with workingFolder? := some folder }
    match ← compiler.reportTo environment source pdf with
    | .error error => return response.fail ("Error: " ++ error.message)
    | .ok report =>
      -- Warnings of the engine do not make the call fail.
      let told := report.warnings.foldl (fun acc line => acc.tell ("Warning: " ++ line)) response
      return told.say pdf.text

/-- What is said of conversions of which some failed. -/
def failureCount (failed all : Nat) (things : String) : String :=
  toString failed ++ " of " ++ toString all ++ " " ++ things ++ " failed"

/-- What is printed of conversions. -/
def reportEach (things : String) (outcomes : List (Path × Except ConvertError Path)) : Response :=
  let shown := outcomes.foldl (fun (acc : Response) outcome =>
    match outcome.2 with
    | .ok written => acc.say written.text
    | .error error =>
      acc.tell ("Error converting '" ++ outcome.1.text ++ "': " ++ error.message)) {}
  -- One failure makes the whole call fail.
  let failed := (outcomes.filter fun outcome => !outcome.2.isOk).length
  if failed = 0 then shown else shown.fail (failureCount failed outcomes.length things)

/-- Converts an image, or the images of a folder. -/
def convertImages (converter : ImageConverter) (outputDir? : Option Path) (path : Path) :
    Task (List (Path × Except ConvertError Path)) := do
  if ← Task.isFolder path then
    match ← converter.convertFolder outputDir? path with
    | .ok outcomes => return outcomes.map fun outcome => (outcome.input, outcome.result)
    | .error error => return [(path, .error error)]
  else return [(path, ← converter.convert outputDir? path)]

/-- The names of the tokenizers, configurations, documents and constructs. -/
def catalogLines : List String :=
  let named (title : String) (names : List String) : List String :=
    title :: names.map fun name => "  " ++ name
  named "Construct configs:" (Library.configs.map (·.1)) ++
    "" :: named "Document templates:" (Library.documents.map (·.1)) ++
    "" :: named "Input tokenizers:" Registry.standard.names ++
    "" :: named "Constructs (for --extra-<construct>):" (Construct.all.map Construct.key)

/-- Does what is asked for. -/
def perform (environment : Environment) (settings : Settings) (overrides : ConfigMap) :
    Request → Task Response
  | .convert input output? pdf? choices => do
    match ← convertFile input output? (← optionsOf settings choices overrides) with
    | .error error => return Response.fail {} ("Error: " ++ error.message)
    | .ok written =>
      -- What was written is told even if no PDF file comes of it.
      let said := Response.say {} written.text
      match pdf? with
      | none => return said
      | some pdf => makePdf environment settings written pdf said
  | .batch inputs outputDir? choices => do
    let outcomes ← convertBatch inputs outputDir? (← optionsOf settings choices overrides)
    return reportEach "files" (outcomes.map fun outcome => (outcome.input, outcome.result))
  | .images paths outputDir? => do
    let converter := settings.imageConverter environment
    -- Without any tool nothing is tried.
    if converter.isReady then
      let outcomes ← Task.each (convertImages converter outputDir?) paths
      return reportEach "images" outcomes.flatten
    else
      return Response.fail {}
        "Error: no image conversion tool found (install ImageMagick, rsvg-convert or sips)"
  | .list => return catalogLines.foldl .say {}

/-- The settings that a call is answered with. -/
def loaderFor (invocation : Invocation) : Loader :=
  let common := Loader.withOptionalFile {} Loader.localFile
  -- The file that is named counts before the one that may be there.
  (invocation.settings?.map common.withFile).getD common

/-- Answers a call of the program with arguments. -/
def respond (environment : Environment) (arguments : List String) : Task Response :=
  match takeExtras arguments with
  | .error reason => return Response.fail {} ("Error: " ++ reason)
  | .ok extras =>
    match invocationOf extras.others with
    | .error refusal => return refusalResponse refusal
    | .ok invocation =>
      match overridesOf (environment.order.arrange extras.templates) with
      -- Templates are only looked at once the call is understood.
      | .error reason => return Response.fail {} ("Error: " ++ reason)
      | .ok overrides => do
        match ← (loaderFor invocation).build { tables := environment.tables } with
        | .error fault =>
          return Response.fail {} ("Failed to load configuration: " ++ fault.message)
        | .ok settings =>
          match invocation.request? with
          | some request => perform environment settings overrides request
          | none =>
            return Response.fail {} "Unknown subcommand. Use --help for usage information."

end Manuscript.CommandLine
