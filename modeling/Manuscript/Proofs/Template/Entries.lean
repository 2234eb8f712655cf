import Manuscript.Proofs.Task.Tells
import Manuscript.Template.Source

/-!
What the name of a configuration or of a document leads to, as a function of the files alone: what
is known by the name, or what is kept in a file, or the reason why there is nothing of use.
-/

namespace Manuscript

/-- What comes of looking for something by its name. -/
inductive Sought (α : Type) where
  /-- It is there. -/
  | held (thing : α)
  /-- Nothing is there by this name. -/
  | missing
  /-- What is there by this name cannot be used. -/
  | faulty (reason : String)

namespace Sought

variable {α β : Type}

/-- What is made of a thing that is there, or of the reason why there is none. -/
def elim (held : α → β) (missing : β) (faulty : String → β) : Sought α → β
  | .held thing => held thing
  | .missing => missing
  | .faulty reason => faulty reason

/-- What is there. -/
def held? : Sought α → Option α := elim some none fun _ => none

/-- What is neither missing nor faulty is there. -/
theorem exists_held {sought : Sought α} (present : sought ≠ .missing)
    (usable : ∀ reason, sought ≠ .faulty reason) : ∃ thing, sought = .held thing := by
  -- What is neither missing nor faulty is there.
  cases sought with
  | held thing => exact ⟨thing, rfl⟩
  | missing => exact absurd rfl present
  | faulty reason => exact absurd rfl (usable reason)

end Sought

/-- Something that is known comes before what is read from the files, if there is anything. -/
def seek {α : Type} (known? : Option α) (kind : Except FileFault EntryKind)
    (read : Except String α) : Sought α :=
  match known?, kind, read with
  | some thing, _, _ => .held thing
  | none, .error _, _ => .missing
  | none, .ok _, .ok thing => .held thing
  | none, .ok _, .error reason => .faulty reason

variable {σ : Type} {programs : Programs σ} {files : Files}

namespace Task

variable {α β : Type} {known? : Option α} {path : Path} {reading : Task (Except String α)}
  {read : Except String α} {use : α → Task β} {absent : Task β} {unusable : String → Task β}
  {result : β} {told : List String}

/-- A task that uses something that is known, or else what a path leads to and can be read. -/
def seeking (known? : Option α) (path : Path) (reading : Task (Except String α)) (use : α → Task β)
    (absent : Task β) (unusable : String → Task β) : Task β :=
  match known? with
  | some thing => use thing
  | none => do
    if ← isPresent path then
      match ← reading with
      | .ok thing => use thing
      | .error reason => unusable reason
    else absent

/-- A task is one that looks among the files when it does the same with each of their answers. -/
theorem bind_eq_seeking {goOn : Bool → Task β} {withRead : Except String α → Task β}
    (missing : goOn false = absent) (present : goOn true = reading >>= withRead)
    (readable : ∀ thing, withRead (.ok thing) = use thing)
    (faulty : ∀ reason, withRead (.error reason) = unusable reason) :
    isPresent path >>= goOn = seeking none path reading use absent unusable := by
  -- The question comes first, and the reading only where something is there.
  refine bind_congr fun there => ?_
  cases there with
  | false => exact missing
  | true =>
    refine present.trans (bind_congr fun read => ?_)
    cases read with
    | ok thing => exact readable thing
    | error reason => exact faulty reason

/-- A task that looks for something goes on as it does with what the files lead to. -/
theorem tells_seeking (reads : reading.Tells programs files read [])
    (rest : ((seek known? (files.kind path) read).elim use absent unusable).Tells programs files
      result told) :
    (seeking known? path reading use absent unusable).Tells programs files result told := by
  cases known? with
  | some thing => exact rest
  | none =>
    -- What is not known is looked for among the files, and read only if it is there.
    have looked : (isPresent path).Tells programs files _ [] := tells_isPresent path
    cases there : files.kind path with
    | error fault =>
      rw [there] at looked rest
      exact looked.bind_silent rest
    | ok kind =>
      rw [there] at looked rest
      cases read with
      -- Reading tells nothing by itself, whether it succeeds or not.
      | error reason => exact looked.bind_silent (reads.bind_silent rest)
      | ok thing => exact looked.bind_silent (reads.bind_silent rest)

end Task

namespace Config

/-- The files that a path may stand for when there is no file at the path itself. -/
def candidates (path : Path) : List (Path × Format) :=
  Format.all.flatMap fun format =>
    format.extensions.map fun extension => (withMore path extension, format)

/-- There is a file at a path. -/
def isFileIn (files : Files) (path : Path) : Bool :=
  decide ((files.kind path).toOption = some .file)

/-- The file that a name stands for, with its format. -/
def located? (files : Files) (name : Path) : Option (Path × Format) :=
  let path := files.current.path.join name
  if isFileIn files path then
    (Format.ofExtension? (path.extension?.getD [])).map fun format => (path, format)
  else (candidates path).find? fun file => isFileIn files file.1

/-- The members that are set by the file that a name stands for. -/
def membersIn (files : Files) (name : Path) : Except SourceFault Members :=
  match located? files name with
  | none => .error .missing
  | some (path, format) =>
    match files.textAt path with
    -- A file without text is as good as none.
    | .error _ => .error .missing
    | .ok text =>
      match format.read? text.toList with
      | some members => .ok members
      | none => .error .malformed

/-- Looking for the first file among some tells nothing. -/
theorem tells_firstFile? (candidates : List (Path × Format)) :
    (firstFile? candidates).Tells programs files
      (candidates.find? fun file => isFileIn files file.1) [] := by
  induction candidates with
  | nil => exact Task.tells_done none
  | cons file rest ih =>
    refine (Task.tells_isFile file.1).bind_silent ?_
    rw [List.find?_cons, isFileIn]
    -- The search stops at a file that is there.
    cases decide ((files.kind file.1).toOption = some .file) with
    | true => exact Task.tells_done (some file)
    | false => exact ih

/-- Looking for the file that a name stands for tells nothing. -/
theorem tells_find? (name : Path) :
    (find? none name).Tells programs files (located? files name) [] := by
  refine Task.Tells.current ((Task.tells_isFile _).bind_silent ?_)
  rw [located?, isFileIn]
  -- The name itself comes first, and then those with an extension.
  cases decide ((files.kind (files.current.path.join name)).toOption = some .file) with
  | true => exact Task.tells_done _
  | false => exact tells_firstFile? _

/-- Reading what a file sets tells nothing. -/
theorem tells_readFile (name : Path) :
    (readFile none name).Tells programs files (membersIn files name) [] := by
  refine (tells_find? name).bind_silent ?_
  unfold membersIn
  cases located? files name with
  -- Where no file is found nothing is read.
  | none => exact Task.tells_done _
  | some file =>
    obtain ⟨path, format⟩ := file
    refine Task.Tells.read ?_
    -- What is read gives members, or one of the faults, and is not asked for again.
    dsimp only [Task.bind, Files.textAt]
    cases files.read path with
    | error fault => exact Task.tells_done _
    | ok content =>
      dsimp only
      cases Utf8.decode? content with
      | none => exact Task.tells_done _
      | some text =>
        dsimp only
        cases format.read? text.toList <;> exact Task.tells_done _

end Config

namespace ConfigSource

/-- The flat configuration in the file that a name stands for, or why there is none. -/
def entriesIn (files : Files) (name : String) : Except String ConfigMap :=
  match Config.membersIn files (Path.ofString name) with
  | .error fault => .error (reasonOf name fault)
  | .ok members =>
    match Config.texts? (Config.setAll (.table []) members).members with
    | some texts => .ok (ConfigMap.overlay [] texts)
    | none => .error notTexts

/-- Reading a flat configuration tells nothing. -/
theorem tells_readMap (name : String) :
    (readMap name).Tells programs files (entriesIn files name) [] := by
  refine (Config.tells_readFile _).bind_silent ?_
  unfold entriesIn
  -- Neither a fault nor an entry that is no text is told about here.
  cases Config.membersIn files (Path.ofString name) with
  | error fault => exact Task.tells_done _
  | ok members =>
    dsimp only
    cases Config.texts? (Config.setAll (.table []) members).members <;> exact Task.tells_done _

/-- The entries that a source asks for: those that its name leads to, or those given. -/
def sought (files : Files) : ConfigSource → Sought ConfigMap
  | .named name =>
    seek (Library.config? name) (files.kind (Path.ofString name)) (entriesIn files name)
  | .literal map => .held map

/-- What the entries of a source are laid over. -/
def below : ConfigSource → List ConfigMap
  | .named _ => [Library.plain]
  | .literal _ => []

/-- The name of a source; one that is given as it is has none, and is never missing. -/
def name : ConfigSource → String
  | .named name => name
  | .literal _ => ""

end ConfigSource

namespace TemplateSource

/-- The text that a source asks for: the one that its name leads to, or the one given. -/
def sought (files : Files) : TemplateSource → Sought String
  | .named name =>
    seek (Library.document? name) (files.kind (Path.ofString name))
      (files.textAt (Path.ofString name))
  | .literal text => .held text

/-- What the text of a source is called. -/
def name : TemplateSource → String
  | .named name => name
  | .literal _ => inlineName

end TemplateSource

end Manuscript
