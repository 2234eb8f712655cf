import Manuscript.Conversion
import Manuscript.Proofs.Task.Requests

/-!
The two halves of a conversion: a document is made from what files hold, and nothing is changed by
that; then it is written, and nothing but that is changed.
-/

namespace Manuscript

open Manuscript.Task

/-- Reading a text only looks. -/
theorem Task.readText_asks (path : Path) : (readText path).Asks Request.IsLook :=
  ⟨trivial, fun _ => trivial⟩

/-- Asking whether something is there only looks. -/
theorem Task.isPresent_asks (path : Path) : (isPresent path).Asks Request.IsLook :=
  ⟨trivial, fun _ => trivial⟩

/-- Asking whether a file is there only looks. -/
theorem Task.isFile_asks (path : Path) : (isFile path).Asks Request.IsLook :=
  ⟨trivial, fun _ => trivial⟩

namespace Config

/-- Looking for the first file among some only looks. -/
theorem firstFile?_asks (files : List (Path × Format)) :
    (firstFile? files).Asks Request.IsLook := by
  induction files with
  | nil => trivial
  | cons file rest ih =>
    refine (isFile_asks file.1).bind fun there => ?_
    -- The first one that is there ends the search.
    cases there
    · exact ih
    · trivial

/-- Looking for the file that a name stands for only looks. -/
theorem find?_asks (format? : Option Format) (name : Path) :
    (find? format? name).Asks Request.IsLook := by
  -- The current folder is asked for, then whether files are there, and nothing else.
  refine ⟨trivial, fun current => (isFile_asks (current.join name)).bind fun there => ?_⟩
  cases there
  · exact firstFile?_asks _
  · trivial

/-- Reading what a file sets only looks. -/
theorem readFile_asks (format? : Option Format) (name : Path) :
    (readFile format? name).Asks Request.IsLook := by
  refine (find?_asks format? name).bind fun found => ?_
  cases found with
  | none => trivial
  | some file =>
    -- The one request left is to read the file; what becomes of its content asks for nothing.
    refine ⟨trivial, fun answer => ?_⟩
    cases answer with
    | error fault => trivial
    | ok content =>
      simp only [Task.bind]
      split
      · trivial
      · split <;> trivial

end Config

namespace ConfigSource

/-- Reading the templates that a file sets only looks. -/
theorem readMap_asks (name : String) : (readMap name).Asks Request.IsLook := by
  refine (Config.readFile_asks _ _).bind fun answer => ?_
  cases answer with
  | error fault => trivial
  | ok members =>
    -- Whether the members are templates is seen without asking for anything.
    dsimp only
    split <;> trivial

/-- Loading what a name stands for only looks. -/
theorem load_asks (name : String) : (load name).Asks Request.IsLook := by
  unfold load
  -- A name that is known is not looked up among the files.
  split
  · trivial
  split
  · trivial
  refine (isPresent_asks _).bind fun there => ?_
  cases there
  · exact ⟨trivial, trivial⟩
  refine (readMap_asks name).bind fun answer => ?_
  cases answer with
  | error reason => exact ⟨trivial, trivial⟩
  | ok map => trivial

/-- Turning a map into templates gives warnings only. -/
theorem templatesOf_asks (map : ConfigMap) : (templatesOf map).Asks Request.IsWarning := by
  -- Templates that are rejected are told about in warnings, one after another.
  have told : (Task.each (fun error => .warn (rejectedWarning error) (.done ()))
      (TemplateSet.rejections map)).Asks Request.IsWarning :=
    asks_each fun _ _ => ⟨trivial, trivial⟩
  exact told.bind fun _ => trivial

/-- Finding the templates of a configuration only looks. -/
theorem resolveTemplates_asks (source : ConfigSource) (overrides : ConfigMap) :
    (source.resolveTemplates overrides).Asks Request.IsLook := by
  -- The configuration is looked for, and its templates give warnings at most, which are looks.
  refine Asks.bind ?_ fun map => (templatesOf_asks map).weaken fun _ => Request.IsWarning.isLook
  cases source with
  | named name => exact (load_asks name).bind fun _ => trivial
  | literal map => trivial

end ConfigSource

namespace TemplateSource

/-- A text that stands around a body gives at most a warning, when the body has no place in it. -/
theorem parsed_asks (origin text : String) : (parsed origin text).Asks Request.IsWarning := by
  unfold parsed
  split
  · trivial
  · exact ⟨trivial, trivial⟩

/-- Finding a document to stand around a body only looks. -/
theorem resolve_asks (source : TemplateSource) : source.resolve.Asks Request.IsLook := by
  have parsed : ∀ origin text, (parsed origin text).Asks Request.IsLook := fun origin text =>
    (parsed_asks origin text).weaken fun _ => Request.IsWarning.isLook
  have warned : ∀ warning text, Asks Request.IsLook
      (.warn warning (TemplateSource.parsed Library.basicName text)) :=
    fun _ text => ⟨trivial, parsed Library.basicName text⟩
  cases source with
  -- A text that is given may only be warned about.
  | literal text => exact parsed _ _
  | named name =>
    unfold resolve
    dsimp only
    split
    · exact parsed _ _
    -- A file that is missing or cannot be read is told about before the built-in text is taken.
    refine (isPresent_asks _).bind fun there => ?_
    cases there
    · exact warned _ _
    refine (readText_asks _).bind fun answer => ?_
    cases answer with
    | error reason => exact ⟨trivial, trivial⟩
    | ok text => exact parsed _ _

end TemplateSource

/-- Making the document of a source only looks. -/
theorem convertWith_asks (tokenizer : Tokenizer) (source : String) (options : ConvertOptions) :
    (convertWith tokenizer source options).Asks Request.IsLook := by
  unfold convertWith
  split
  · -- What has no tokens is never resolved.
    trivial
  · refine Asks.bind ?_ fun _ => trivial
    refine (options.config.resolveTemplates_asks options.overrides).bind fun _ => ?_
    exact options.template.resolve_asks.bind fun _ => trivial

/-- Where the document of a source is written: into a folder, or beside the source. -/
def outputPath (outputDir? : Option Path) (input : Path) : Path :=
  match outputDir? with
  | some dir => dir.withStemIn input documentExtension.toList
  | none => input.withExtension documentExtension.toList

/-- Where the document of a file is written: to the given path, or else beside the source. -/
def outputFor (output? : Option Path) (input : Path) : Path :=
  output?.getD (input.withExtension documentExtension.toList)

/-- The document of a file that is to be converted to another one, before it is written. -/
def documentFor (options : ConvertOptions) (input output : Path) :
    Task (Except ConvertError String) := do
  match options.tokenizerFor input with
  | .error error => return .error error
  | .ok tokenizer =>
    if output.same input then return .error (.io output overwriteReason)
    else
      match ← Task.readText input with
      | .error reason => return .error (.io input reason)
      | .ok source => convertWith tokenizer source options

/-- Writes a document, if there is one. -/
def writeDocument (output : Path) : Except ConvertError String → Task (Except ConvertError Path)
  | .error error => .done (.error error)
  | .ok document => Task.writeFile output (Utf8.encode document)

/-- A conversion makes a document and then writes it. -/
theorem convertFile_eq (input : Path) (output? : Option Path) (options : ConvertOptions) :
    convertFile input output? options =
      documentFor options input (outputFor output? input) >>=
        writeDocument (outputFor output? input) := by
  unfold convertFile documentFor outputFor
  -- The halves part only at what was decided before the source is read, and after it was.
  cases options.tokenizerFor input with
  | error error => rfl
  | ok tokenizer =>
    dsimp only
    split
    · rfl
    · refine congrArg (Task.read input) (funext fun answer => ?_)
      cases answer with
      | error fault => rfl
      | ok content =>
        dsimp only
        -- Bytes that are no text end both.
        cases Utf8.decode? content <;> rfl

/-- Tells the outcome of a conversion: a failure in a warning. -/
def tellOutcome (input : Path) (result : Except ConvertError Path) : Task BatchOutcome :=
  match result with
  | .ok _ => .done ⟨input, result⟩
  | .error error => .warn error.message (.done ⟨input, result⟩)

/-- The conversion of one file among many makes a document, writes it and tells the outcome. -/
theorem batchTask_eq (outputDir? : Option Path) (options : ConvertOptions) (input : Path) :
    batchTask outputDir? options input =
      (documentFor options input (outputPath outputDir? input) >>=
        writeDocument (outputPath outputDir? input)) >>= tellOutcome input := by
  -- Where the document is written is the same for one file and for many, with and without a folder.
  cases outputDir? with
  | none =>
    show Task.bind (convertFile _ _ _) _ = _
    rw [convertFile_eq]
    rfl
  | some dir =>
    show Task.bind (convertFile _ _ _) _ = _
    rw [convertFile_eq]
    rfl

/-- Neither the configuration nor the document around the body is taken from a file. -/
structure ConvertOptions.IsBuiltIn (options : ConvertOptions) : Prop where
  /-- The configuration is given as it is, or its name is known. -/
  config : ∀ name, options.config = .named name → (Library.config? name).isSome
  /-- The document is given as it is, or its name is known. -/
  template : ∀ name, options.template = .named name → (Library.document? name).isSome

/-- Without templates from files the document of tokens takes nothing but warnings. -/
theorem ConvertOptions.IsBuiltIn.convertTokens_asks {options : ConvertOptions}
    (known : options.IsBuiltIn) (tokens : List Token) :
    (convertTokens tokens options).Asks Request.IsWarning := by
  -- A known name is loaded without a look at any file.
  have map : (options.config.resolve options.overrides).Asks Request.IsWarning := by
    cases source : options.config with
    | literal map => trivial
    | named name =>
      obtain ⟨map, found⟩ := Option.isSome_iff_exists.mp (known.config name source)
      have load : (ConfigSource.load name).Asks Request.IsWarning := by
        unfold ConfigSource.load
        split
        · trivial
        · rw [found]
          trivial
      exact load.bind fun _ => trivial
  -- So is a known document, which is taken from the library as it stands.
  have document : options.template.resolve.Asks Request.IsWarning := by
    cases source : options.template with
    | literal text => exact TemplateSource.parsed_asks _ _
    | named name =>
      obtain ⟨text, found⟩ := Option.isSome_iff_exists.mp (known.template name source)
      unfold TemplateSource.resolve
      dsimp only
      rw [found]
      exact TemplateSource.parsed_asks _ _
  have templates : (options.config.resolveTemplates options.overrides).Asks Request.IsWarning :=
    map.bind ConfigSource.templatesOf_asks
  exact templates.bind fun _ => document.bind fun _ => trivial

/-- Without templates from files nothing is looked at but the source. -/
theorem ConvertOptions.IsBuiltIn.looks_documentFor {options : ConvertOptions}
    (known : options.IsBuiltIn) {input output path : Path} {files : Files}
    (looked : path ∈ (documentFor options input output).looks files) : path = input := by
  unfold documentFor at looked
  split at looked
  · cases looked
  split at looked
  · cases looked
  -- What follows the reading of the source gives warnings only.
  have behind : ∀ tokenizer source,
      (convertWith tokenizer source options).looks files = [] := by
    intro tokenizer source
    unfold convertWith
    split
    · rfl
    -- With tokens the templates are resolved, which are built in.
    case h_2 tokens _ =>
      have asks : (convertTokens tokens options >>= fun document =>
          (.done (.ok document) : Task (Except ConvertError String))).Asks Request.IsWarning :=
        (known.convertTokens_asks tokens).bind fun _ => trivial
      exact asks.looks_eq_nil files
  rcases List.mem_cons.mp looked with same | more
  · exact same
  -- Behind the source there is only the work of the tokenizer and of the templates.
  dsimp only at more
  cases answer : files.read input with
  | error fault =>
    rw [answer] at more
    cases more
  | ok content =>
    rw [answer] at more
    dsimp only [Task.bind] at more
    cases decoded : Utf8.decode? content with
    | none =>
      rw [decoded] at more
      cases more
    | some source =>
      rw [decoded] at more
      dsimp only at more
      rw [behind] at more
      cases more

/-- Making a document only looks. -/
theorem documentFor_asks (options : ConvertOptions) (input output : Path) :
    (documentFor options input output).Asks Request.IsLook := by
  unfold documentFor
  split
  · trivial
  split
  · trivial
  refine (readText_asks input).bind fun answer => ?_
  cases answer with
  | error reason => trivial
  -- The source is asked for itself, and then what the options name.
  | ok source => exact convertWith_asks _ _ _

/-- Making a document changes no file. -/
theorem documentFor_run_files {σ : Type} (programs : Programs σ) (options : ConvertOptions)
    (input output : Path) (world : World σ) :
    ((documentFor options input output).run programs world).2.files = world.files := by
  -- No request for a look changes a file, and nothing else is asked for.
  have same : world.files = ((documentFor options input output).run programs world).2.files :=
    (documentFor_asks options input output).run (fun _ look _ _ does => (look.does does).symm)
      (fun _ => rfl) (fun first last => first.trans last) world
  exact same.symm

/-- The document of a source that can be read, when it would not take the place of the source. -/
theorem documentFor_run {σ : Type} (programs : Programs σ) {options : ConvertOptions}
    {input output : Path} {tokenizer : Tokenizer} {content : Bytes} {source : String}
    {tokens : List Token} {world : World σ} (chosen : options.tokenizerFor input = .ok tokenizer)
    (other : output.same input = false) (read : world.files.read input = .ok content)
    (decoded : Utf8.decode? content = some source) (made : tokenizer.tokenize source = .ok tokens) :
    (documentFor options input output).run programs world =
      (.ok ((convertTokens tokens options).run programs world).1,
        ((convertTokens tokens options).run programs world).2) := by
  -- Nothing keeps the conversion from its source, and the source is a text that has tokens.
  unfold documentFor
  rw [chosen]
  dsimp only
  rw [other]
  show ((Task.readText input).bind _).run programs world = _
  -- The source is read, decoded and made into tokens, one after another.
  rw [run_bind]
  unfold Task.readText
  simp only [Task.run, read, decoded, convertWith, made]
  exact run_bind programs (convertTokens tokens options) _ world

section Run

variable {σ : Type} (programs : Programs σ) (options : ConvertOptions)

/-- A source that is read as markdown is converted, when its document can be written. -/
theorem convertFile_run (output? : Option Path) (world : World σ) (input : Path)
    (behind : Bytes → Files) {content : Bytes} {source : String}
    (chosen : options.tokenizerFor input = .ok .markdown)
    (other : (outputFor output? input).same input = false)
    (read : world.files.read input = .ok content) (decoded : Utf8.decode? content = some source)
    (written : ∀ document memory warnings,
      (writeFile (outputFor output? input) document).run programs ⟨world.files, memory, warnings⟩ =
        (.ok (outputFor output? input), ⟨behind document, memory, warnings⟩)) :
    ∃ tokens memory warnings, (convertFile input output? options).run programs world =
      (.ok (outputFor output? input),
        ⟨behind (Utf8.encode ((convertTokens tokens options).run programs world).1), memory,
          warnings⟩) := by
  obtain ⟨tokens, tokenized⟩ : ∃ tokens, Tokenizer.markdown.tokenize source = .ok tokens := ⟨_, rfl⟩
  have made := documentFor_run programs chosen other read decoded tokenized
  -- The templates are only read.
  have same := documentFor_run_files programs options input (outputFor output? input) world
  rw [made] at same
  refine ⟨tokens, ((convertTokens tokens options).run programs world).2.memory,
    ((convertTokens tokens options).run programs world).2.warnings, ?_⟩
  rw [convertFile_eq]
  show (Task.bind _ _).run programs world = _
  rw [run_bind, made]
  -- Making the document leaves the files alone, so that it is written on those of the world.
  generalize (convertTokens tokens options).run programs world = result at same ⊢
  obtain ⟨document, files, memory, warnings⟩ := result
  obtain rfl : files = world.files := same
  exact written _ _ _

/-- A source read as markdown is converted among others, when its document can be written. -/
theorem batchTask_run (outputDir? : Option Path) (world : World σ) (input : Path)
    (behind : Bytes → Files) {content : Bytes} {source : String}
    (chosen : options.tokenizerFor input = .ok .markdown)
    (other : (outputPath outputDir? input).same input = false)
    (read : world.files.read input = .ok content) (decoded : Utf8.decode? content = some source)
    (written : ∀ document memory warnings,
      (writeFile (outputPath outputDir? input) document).run programs
          ⟨world.files, memory, warnings⟩ =
        (.ok (outputPath outputDir? input), ⟨behind document, memory, warnings⟩)) :
    ∃ document memory warnings, (batchTask outputDir? options input).run programs world =
      -- With a folder and without one, the document goes where its output path says.
      (⟨input, .ok (outputPath outputDir? input)⟩, ⟨behind document, memory, warnings⟩) := by
  -- A file goes to the path beside its source unless a folder is given, and so it is told.
  have path : outputFor (outputDir?.map fun dir => dir.withStemIn input documentExtension.toList)
      input = outputPath outputDir? input := by
    cases outputDir? <;> rfl
  rw [← path] at other ⊢
  simp only [← path] at written
  obtain ⟨tokens, memory, warnings, done⟩ :=
    convertFile_run programs options _ world input behind chosen other read decoded written
  refine ⟨Utf8.encode ((convertTokens tokens options).run programs world).1, memory, warnings, ?_⟩
  show (Task.bind (convertFile _ _ _) _).run programs world = _
  rw [run_bind, done]
  rfl

end Run

/-- No bytes are the text of no characters. -/
theorem Utf8.decode?_nil : Utf8.decode? [] = some "" := by decide +kernel

/-- Programs that cannot be started. -/
def noPrograms : Programs Unit := fun _ files memory => (.unstarted .missing, files, memory)

/-- Two empty sources in the current folder, and nothing else. -/
def twoSources : World Unit where
  files.entries := [(["a.md".toList], .file []), (["b.md".toList], .file [])]
  memory := ()

end Manuscript
