import Manuscript.Files.Tasks

/-!
Tasks that only look at files: what they give on some files, and which warnings they tell on the
way. Nothing else of the world is changed by them.
-/

namespace Manuscript

/-- The text of a file, or why there is none. -/
def Files.textAt (files : Files) (path : Path) : Except String String :=
  match files.read path with
  | .error fault => .error fault.message
  | .ok content =>
    match Utf8.decode? content with
    | some text => .ok text
    | none => .error Task.notText

namespace Task

variable {σ α β : Type} {programs : Programs σ} {files : Files} {task : Task α} {result : α}
  {told : List String}

/-- On some files a task gives a result and tells warnings, and does nothing else. -/
def Tells (programs : Programs σ) (files : Files) (task : Task α) (result : α)
    (told : List String) : Prop :=
  ∀ memory warnings, task.run programs ⟨files, memory, warnings⟩ =
    (result, ⟨files, memory, warnings ++ told⟩)

/-- What is over tells nothing. -/
theorem tells_done (result : α) : (Task.done result).Tells programs files result [] := by
  intro memory warnings
  rw [run, List.append_nil]

/-- A warning is told before what follows it. -/
theorem Tells.warn (rest : task.Tells programs files result told) (text : String) :
    (Task.warn text task).Tells programs files result (text :: told) := by
  intro memory warnings
  rw [run, rest, List.append_assoc]
  rfl

/-- What follows a task tells its warnings behind those of the task. -/
theorem Tells.bind {next : α → Task β} {final : β} {more : List String}
    (first : task.Tells programs files result told)
    (rest : (next result).Tells programs files final more) :
    (task >>= next).Tells programs files final (told ++ more) := by
  -- The run comes apart where the first task ends.
  intro memory warnings
  have split := run_bind programs task next ⟨files, memory, warnings⟩
  rw [first, rest, List.append_assoc] at split
  exact split

/-- A task that tells nothing is followed as if it were not there. -/
theorem Tells.bind_silent {next : α → Task β} {final : β} {more : List String}
    (first : task.Tells programs files result [])
    (rest : (next result).Tells programs files final more) :
    (task >>= next).Tells programs files final more := first.bind rest

/-- The result of a task may be changed without a warning. -/
theorem Tells.map (first : task.Tells programs files result told) (change : α → β) :
    (do return change (← task)).Tells programs files (change result) told := by
  have whole : (task >>= fun held => pure (change held)).Tells programs files (change result)
      (told ++ []) := first.bind (tells_done (change result))
  rwa [List.append_nil] at whole

/-- Warnings that are told one after another are all told. -/
theorem tells_each (text : β → String) (items : List β) :
    (Task.each (fun item => .warn (text item) (.done ())) items).Tells programs files
      (items.map fun _ => ()) (items.map text) := by
  -- One warning comes behind another, in the order of the items.
  induction items with
  | nil => exact tells_done []
  | cons item rest ih => exact ((tells_done ()).warn (text item)).bind (ih.map (() :: ·))

/-- A question of what a path leads to is answered as the files say. -/
theorem Tells.find {path : Path} {next : Except FileFault EntryKind → Task α}
    (rest : (next (files.kind path)).Tells programs files result told) :
    (Task.find path next).Tells programs files result told := rest

/-- A question of what a file holds is answered as the files say. -/
theorem Tells.read {path : Path} {next : Except FileFault Bytes → Task α}
    (rest : (next (files.read path)).Tells programs files result told) :
    (Task.read path next).Tells programs files result told := rest

/-- The question of the current folder is answered as the files say. -/
theorem Tells.current {next : Path → Task α}
    (rest : (next files.current.path).Tells programs files result told) :
    (Task.current next).Tells programs files result told := rest

/-- Asking whether something is there tells nothing. -/
theorem tells_isPresent (path : Path) :
    (isPresent path).Tells programs files (files.kind path).isOk [] := .find (tells_done _)

/-- Asking whether a file is there tells nothing. -/
theorem tells_isFile (path : Path) :
    (isFile path).Tells programs files (decide ((files.kind path).toOption = some .file)) [] :=
  .find (tells_done _)

/-- Reading a text tells nothing. -/
theorem tells_readText (path : Path) :
    (readText path).Tells programs files (files.textAt path) [] := .read (tells_done _)

end Task

end Manuscript
