import Manuscript.Files.Tasks
import Manuscript.Render.Tokens
import Manuscript.Template.Source
import Manuscript.Tokenizer

/-! Conversion of sources to documents, one by one or many at once. -/

namespace Manuscript

/-- What a conversion needs besides its source. -/
structure ConvertOptions where
  /-- Where the templates of the constructs come from. -/
  config : ConfigSource := .named Library.plainName
  /-- Where the document around the body comes from. -/
  template : TemplateSource := .named Library.basicName
  /-- Templates that count whatever the configuration says. -/
  overrides : ConfigMap := []
  /-- How constructs are rendered. -/
  render : RenderOptions := {}
  /-- The tokenizer for files; without one, the extension decides. -/
  tokenizer? : Option String := none
  deriving DecidableEq

/-- The document of tokens. -/
def convertTokens (tokens : List Token) (options : ConvertOptions) : Task String := do
  -- What is wrong with the templates is told in front of what is wrong with the document.
  let templates ← options.config.resolveTemplates options.overrides
  let document ← options.template.resolve
  return ((Renderer.ofTemplates templates options.render).document 0 tokens document).1

/-- The document of a source that a tokenizer reads. -/
def convertWith (tokenizer : Tokenizer) (source : String) (options : ConvertOptions) :
    Task (Except ConvertError String) :=
  match tokenizer.tokenize source with
  | .error error => .done (.error error)
  | .ok tokens => return .ok (← convertTokens tokens options)

/-- The document of a source in markdown. -/
def convertMarkdown (source : String) (options : ConvertOptions) :
    Task (Except ConvertError String) :=
  convertWith .markdown source options

/-- The extension of documents. -/
def documentExtension : String := "tex"

/-- The tokenizer of a file: the one that was chosen, or the one for its extension. -/
def ConvertOptions.tokenizerFor (options : ConvertOptions) (input : Path) :
    Except ConvertError Tokenizer :=
  match options.tokenizer? with
  | some name => Registry.standard.get name
  | none => Registry.standard.forPath input

/-- What is said when a document would take the place of its source. -/
def overwriteReason : String := "output would overwrite the input"

/--
Converts a file and tells where the document was written: to the given path, or else beside the
source. A file is never converted onto itself as far as its path shows.
-/
def convertFile (input : Path) (output? : Option Path) (options : ConvertOptions) :
    Task (Except ConvertError Path) := do
  match options.tokenizerFor input with
  | .error error => return .error error
  | .ok tokenizer =>
    -- The output is known before the source is read.
    let output := output?.getD (input.withExtension documentExtension.toList)
    if output.same input then return .error (.io output overwriteReason)
    else
      match ← Task.readText input with
      | .error reason => return .error (.io input reason)
      | .ok source =>
        match ← convertWith tokenizer source options with
        | .error error => return .error error
        | .ok document => Task.writeFile output (Utf8.encode document)

/-- What became of one file among many. -/
structure BatchOutcome where
  /-- The source. -/
  input : Path
  /-- Where its document was written, or why there is none. -/
  result : Except ConvertError Path

/-- The conversion of one file among many: a failure is told in a warning. -/
def batchTask (outputDir? : Option Path) (options : ConvertOptions) (input : Path) :
    Task BatchOutcome := do
  -- Without a folder for all of them each document stands beside its source.
  let output? := outputDir?.map fun dir => dir.withStemIn input documentExtension.toList
  let result ← convertFile input output? options
  match result with
  | .ok _ => return ⟨input, result⟩
  -- The failure of one file is told, and kept as its outcome.
  | .error error => .warn error.message (return ⟨input, result⟩)

/-- Converts files one after another; that one fails does not stop the others. -/
def convertBatch (inputs : List Path) (outputDir? : Option Path) (options : ConvertOptions) :
    Task (List BatchOutcome) :=
  Task.each (batchTask outputDir? options) inputs

end Manuscript
