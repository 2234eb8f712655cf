import Manuscript.Duration
import Manuscript.Files.Basic

/-!
Work on files and with other programs, as a tree of requests: each request waits for its answer and
goes on from there. A task by itself does nothing; it can be run on files that are only a value. Of
these files it is left out who may use them, and that one may be a link to another.
-/

namespace Manuscript

/-- A program to be started. -/
structure Command where
  /-- The program. -/
  program : Path
  /-- What is passed to it. -/
  arguments : List String
  /-- The folder that it starts in, when it is not the current one. -/
  folder? : Option Path := none
  /-- Variables that are set for it. -/
  environment : List (String × String) := []
  /-- How long it may run. -/
  limit : Duration
  deriving DecidableEq

/-- How a program that was to be started ended. -/
inductive Outcome where
  /-- It could not be started. -/
  | unstarted (fault : FileFault)
  /-- It ended by itself, with a code. -/
  | ended (code : Nat)
  /-- A signal ended it, and its memory was dumped or not. -/
  | killed (signal : Nat) (dumped : Bool)
  /-- It was started, but nothing could be learned of its end. -/
  | lost (fault : FileFault)
  /-- It ran longer than it may. -/
  | overran
  deriving DecidableEq

/-- Work that ends with a result. -/
inductive Task (α : Type) : Type where
  /-- The end. -/
  | done (result : α)
  /-- A warning is given. -/
  | warn (text : String) (next : Task α)
  /-- Asks what a path leads to. -/
  | find (path : Path) (next : Except FileFault EntryKind → Task α)
  /-- Reads a file. -/
  | read (path : Path) (next : Except FileFault Bytes → Task α)
  /-- Writes a file. -/
  | write (path : Path) (content : Bytes) (next : Except FileFault Unit → Task α)
  /-- Makes a folder. -/
  | makeFolder (path : Path) (next : Except FileFault Unit → Task α)
  /-- Asks for the names in a folder. -/
  | list (path : Path) (next : Except FileFault (List Name) → Task α)
  /-- Asks for the current folder. -/
  | current (next : Path → Task α)
  /-- Makes a temporary folder. -/
  | makeTemporary (next : Except FileFault Path → Task α)
  /-- Removes a temporary folder and what is in it. -/
  | removeTemporary (path : Path) (next : Task α)
  /-- Starts a program and waits for its end. -/
  | start (command : Command) (next : Outcome → Task α)

namespace Task

/-- Work that goes on with the result of other work. -/
def bind {α β : Type} (task : Task α) (next : α → Task β) : Task β :=
  match task with
  | .done result => next result
  | .warn text rest => .warn text (rest.bind next)
  | .find path rest => .find path fun answer => (rest answer).bind next
  | .read path rest => .read path fun answer => (rest answer).bind next
  | .write path content rest => .write path content fun answer => (rest answer).bind next
  | .makeFolder path rest => .makeFolder path fun answer => (rest answer).bind next
  | .list path rest => .list path fun answer => (rest answer).bind next
  | .current rest => .current fun answer => (rest answer).bind next
  | .makeTemporary rest => .makeTemporary fun answer => (rest answer).bind next
  | .removeTemporary path rest => .removeTemporary path (rest.bind next)
  | .start command rest => .start command fun answer => (rest answer).bind next

instance : Monad Task where
  pure := .done
  bind := bind

/-- Work on each of some things, in order. -/
def each {α β : Type} (work : α → Task β) : List α → Task (List β)
  | [] => .done []
  | item :: rest =>
    (work item).bind fun result => (each work rest).bind fun more => .done (result :: more)

end Task

/-- What a task is run on: files, the warnings so far, and whatever other programs remember. -/
structure World (σ : Type) where
  /-- The files. -/
  files : Files
  /-- What other programs remember. -/
  memory : σ
  /-- The warnings that were given, in order. -/
  warnings : List String := []

/-- How other programs behave: what each does to the files, and how it ends. -/
abbrev Programs (σ : Type) := Command → Files → σ → Outcome × Files × σ

namespace Command

/-- The texts that a program is started with. -/
def texts (command : Command) : List (List Char) :=
  [command.program.chars] ++ command.arguments.map String.toList ++
    (command.folder?.map Path.chars).toList ++
    command.environment.flatMap fun held => [held.1.toList, held.2.toList]

/-- One of the texts holds a character that ends a text. -/
def isCutShort (command : Command) : Bool := command.texts.any (·.contains '\x00')

/-- What is said of such a command. -/
def cutShortReason : String := "nul byte found in provided data"

end Command

namespace Task

/--
A command whose texts are cut short, or whose folder is not there, is not started. Any other behaves
as programs do.
-/
def startOn {σ : Type} (programs : Programs σ) (command : Command) (files : Files) (memory : σ) :
    Outcome × Files × σ :=
  if command.isCutShort then (.unstarted (.unknown Command.cutShortReason), files, memory)
  else
    -- The folder to start in is looked at before the program is asked.
    match command.folder?.map files.kind with
    | some (.error fault) => (.unstarted fault, files, memory)
    | some (.ok .file) => (.unstarted .notFolder, files, memory)
    | _ => programs command files memory

/-- The result of a task, and the world after it. -/
def run {σ α : Type} (programs : Programs σ) : Task α → World σ → α × World σ
  | .done result, world => (result, world)
  | .warn text next, world =>
    run programs next { world with warnings := world.warnings ++ [text] }
  | .find path next, world => run programs (next (world.files.kind path)) world
  | .read path next, world => run programs (next (world.files.read path)) world
  | .write path content next, world =>
    -- A request that fails leaves the files as they were.
    match world.files.write path content with
    | .ok files => run programs (next (.ok ())) { world with files }
    | .error fault => run programs (next (.error fault)) world
  | .makeFolder path next, world =>
    match world.files.makeFolder path with
    | .ok files => run programs (next (.ok ())) { world with files }
    | .error fault => run programs (next (.error fault)) world
  | .list path next, world => run programs (next (world.files.list path)) world
  | .current next, world => run programs (next world.files.current.path) world
  | .makeTemporary next, world =>
    match world.files.newTemporary with
    | .ok (location, files) => run programs (next (.ok location.path)) { world with files }
    | .error fault => run programs (next (.error fault)) world
  | .removeTemporary path next, world =>
    match world.files.locate path with
    | .ok location => run programs next { world with files := world.files.remove location }
    -- What cannot be found need not be removed.
    | .error _ => run programs next world
  | .start command next, world =>
    let (outcome, files, memory) := startOn programs command world.files world.memory
    run programs (next outcome) { world with files, memory }

/-- A task bound to what follows it runs first. -/
theorem run_bind {σ α β : Type} (programs : Programs σ) (task : Task α) (next : α → Task β)
    (world : World σ) :
    (task.bind next).run programs world =
      (next (task.run programs world).1).run programs (task.run programs world).2 := by
  induction task generalizing world with
  -- Each request is answered from the world, and the hypothesis goes on from its answer.
  | done result => rfl
  | warn text rest ih => exact ih _
  | find path rest ih => exact ih _ _
  | read path rest ih => exact ih _ _
  | write path content rest ih =>
    simp only [bind, run]
    split <;> exact ih _ _
  | makeFolder path rest ih =>
    simp only [bind, run]
    split <;> exact ih _ _
  | list path rest ih => exact ih _ _
  | current rest ih => exact ih _ _
  | makeTemporary rest ih =>
    simp only [bind, run]
    split <;> exact ih _ _
  | removeTemporary path rest ih =>
    simp only [bind, run]
    split <;> exact ih _
  | start command rest ih => exact ih _ _

end Task

end Manuscript
