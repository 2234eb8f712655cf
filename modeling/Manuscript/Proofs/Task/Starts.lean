import Manuscript.Proofs.Task.Requests
import Manuscript.Tools

/-!
Which programs a task starts. A run of a task is told by these commands, the result and the world
that is left, and runs one after another put their commands one after another.
-/

namespace Manuscript

namespace Task

variable {σ α β : Type} (programs : Programs σ)

/-- The commands that a task starts, in order, whether they can be started or not. -/
def starts : Task α → World σ → List Command
  | .done _, _ => []
  | .warn text next, world =>
    starts next { world with warnings := world.warnings ++ [text] }
  | .find path next, world => starts (next (world.files.kind path)) world
  | .read path next, world => starts (next (world.files.read path)) world
  | .write path content next, world =>
    match world.files.write path content with
    | .ok files => starts (next (.ok ())) { world with files }
    | .error fault => starts (next (.error fault)) world
  | .makeFolder path next, world =>
    match world.files.makeFolder path with
    | .ok files => starts (next (.ok ())) { world with files }
    | .error fault => starts (next (.error fault)) world
  | .list path next, world => starts (next (world.files.list path)) world
  | .current next, world => starts (next world.files.current.path) world
  | .makeTemporary next, world =>
    match world.files.newTemporary with
    | .ok (location, files) => starts (next (.ok location.path)) { world with files }
    | .error fault => starts (next (.error fault)) world
  | .removeTemporary path next, world =>
    match world.files.locate path with
    | .ok location => starts next { world with files := world.files.remove location }
    | .error _ => starts next world
  | .start command next, world =>
    let (outcome, files, memory) := startOn programs command world.files world.memory
    command :: starts (next outcome) { world with files, memory }

/-- A task bound to what follows it starts its programs first. -/
theorem starts_bind (task : Task α) (next : α → Task β) (world : World σ) :
    (task.bind next).starts programs world =
      task.starts programs world ++
        (next (task.run programs world).1).starts programs (task.run programs world).2 := by
  -- The programs are those of the first task until this is over, whatever it is told.
  induction task generalizing world with
  | done result => rfl
  | warn text rest ih => exact ih _
  | find path rest ih => exact ih _ _
  | read path rest ih => exact ih _ _
  | write path content rest ih =>
    -- A request that may fail goes on with what it was answered.
    cases written : world.files.write path content <;>
      simp only [bind, starts, run, written] <;> exact ih _ _
  | makeFolder path rest ih =>
    cases made : world.files.makeFolder path <;>
      simp only [bind, starts, run, made] <;> exact ih _ _
  | list path rest ih => exact ih _ _
  | current rest ih => exact ih _ _
  | makeTemporary rest ih =>
    cases made : world.files.newTemporary <;>
      simp only [bind, starts, run, made] <;> exact ih _ _
  | removeTemporary path rest ih =>
    cases found : world.files.locate path <;>
      simp only [bind, starts, run, found] <;> exact ih _
  | start command rest ih => exact congrArg (command :: ·) (ih _ _)

/-- A task starts nothing but what it may ask for. -/
theorem Asks.starts {may : Request → Prop} {task : Task α} (asks : task.Asks may)
    (world : World σ) :
    ∀ command ∈ task.starts programs world, may (.start command) := by
  -- The task is followed along its own answers, and only the request for a start adds a command.
  induction task generalizing world with
  | done result => exact nofun
  | warn text rest ih => exact ih asks.2 _
  | find path rest ih => exact ih _ (asks.2 _) _
  | read path rest ih => exact ih _ (asks.2 _) _
  | list path rest ih => exact ih _ (asks.2 _) _
  | current rest ih => exact ih _ (asks.2 _) _
  | write path content rest ih =>
    cases written : world.files.write path content <;> simp only [Task.starts, written] <;>
      exact ih _ (asks.2 _) _
  | makeFolder path rest ih =>
    cases made : world.files.makeFolder path <;> simp only [Task.starts, made] <;>
      exact ih _ (asks.2 _) _
  | makeTemporary rest ih =>
    cases made : world.files.newTemporary <;> simp only [Task.starts, made] <;>
      exact ih _ (asks.2 _) _
  | removeTemporary path rest ih =>
    cases found : world.files.locate path <;> simp only [Task.starts, found] <;> exact ih asks.2 _
  | start command rest ih =>
    intro other member
    -- The command is the one asked for, or one of those behind it.
    rcases List.mem_cons.mp member with rfl | later
    · exact asks.1
    · exact ih _ (asks.2 _) _ other later

/-- A task that is run on a world: what it starts, its result, and the world that it leaves. -/
structure Ends (task : Task α) (world : World σ) (commands : List Command) (result : α)
    (left : World σ) : Prop where
  /-- The commands are started. -/
  starts : task.starts programs world = commands
  /-- The result and the world are what the run gives. -/
  run : task.run programs world = (result, left)

namespace Ends

variable {programs} {task : Task α} {world between left : World σ} {commands others : List Command}
  {result : α} {final : β}

/-- A task that is over starts nothing. -/
theorem done : (Task.done result).Ends programs world [] result world := ⟨rfl, rfl⟩

/-- A warning starts nothing. -/
theorem warn {text : String}
    (rest : task.Ends programs { world with warnings := world.warnings ++ [text] } commands result
      left) :
    (Task.warn text task).Ends programs world commands result left := ⟨rest.starts, rest.run⟩

/-- Asking for the current folder starts nothing. -/
theorem current {next : Path → Task α}
    (rest : (next world.files.current.path).Ends programs world commands result left) :
    (Task.current next).Ends programs world commands result left := ⟨rest.starts, rest.run⟩

/-- Reading a file starts nothing. -/
theorem read {path : Path} {next : Except FileFault Bytes → Task α}
    (rest : (next (world.files.read path)).Ends programs world commands result left) :
    (Task.read path next).Ends programs world commands result left := ⟨rest.starts, rest.run⟩

/-- Writing a file that can be written starts nothing. -/
theorem write {path : Path} {content : Bytes} {next : Except FileFault Unit → Task α}
    {files : Files} (written : world.files.write path content = .ok files)
    (rest : (next (.ok ())).Ends programs { world with files } commands result left) :
    (Task.write path content next).Ends programs world commands result left := by
  -- The write starts no program, and the rest goes on with the new files.
  constructor
  · simpa only [Task.starts, written] using rest.starts
  · simpa only [Task.run, written] using rest.run

/-- Failing to write a file starts nothing. -/
theorem write_fault {path : Path} {content : Bytes} {next : Except FileFault Unit → Task α}
    {fault : FileFault} (failed : world.files.write path content = .error fault)
    (rest : (next (.error fault)).Ends programs world commands result left) :
    (Task.write path content next).Ends programs world commands result left := by
  -- The write starts no program, and the rest goes on as if there had been none.
  constructor
  · simpa only [Task.starts, failed] using rest.starts
  · simpa only [Task.run, failed] using rest.run

/-- What follows a task starts its programs behind those of the task. -/
theorem bind {next : α → Task β} (first : task.Ends programs world commands result between)
    (last : (next result).Ends programs between others final left) :
    (task >>= next).Ends programs world (commands ++ others) final left := by
  -- The programs of both come one behind the other, and the worlds are handed on.
  constructor
  · show (task.bind next).starts programs world = _
    rw [starts_bind, first.starts, first.run, last.starts]
  · show (task.bind next).run programs world = _
    rw [run_bind, first.run, last.run]

/-- What follows either of two tasks follows the one that is chosen. -/
theorem of_ite {p : Prop} [Decidable p] {first other : Task α} {next : α → Task β}
    (chosen : ((if p then first else other) >>= next).Ends programs world commands final left) :
    (if p then first >>= next else other >>= next).Ends programs world commands final left := by
  -- What follows is the same on both sides of the choice.
  by_cases holds : p
  · rwa [if_pos holds] at chosen ⊢
  · rwa [if_neg holds] at chosen ⊢

/-- What follows a task may start nothing. -/
theorem then_nothing {next : α → Task β}
    (first : task.Ends programs world commands result between)
    (last : (next result).Ends programs between [] final left) :
    (task >>= next).Ends programs world commands final left := by
  simpa using first.bind last

/-- A task may start nothing before what follows it. -/
theorem nothing_then {next : α → Task β} (first : task.Ends programs world [] result between)
    (last : (next result).Ends programs between others final left) :
    (task >>= next).Ends programs world others final left := first.bind last

/-- Removing a temporary folder starts nothing. -/
theorem removeTemporary (path : Path) (result : α) (world : World σ) :
    ∃ left, (Task.removeTemporary path (.done result)).Ends programs world [] result left := by
  -- A folder that is not found is left alone.
  cases found : world.files.locate path with
  | ok location =>
    exact ⟨{ world with files := world.files.remove location },
      by simp only [Task.starts, found], by simp only [Task.run, found]⟩
  | error fault => exact ⟨world, by simp only [Task.starts, found], by simp only [Task.run, found]⟩

variable {failed : FileFault → Task α} {work : Path → Task α}

/-- Work in a temporary folder starts what it starts elsewhere. -/
theorem inTemporary {location : Location} {files : Files}
    (made : world.files.newTemporary = .ok (location, files))
    (ends : (work location.path).Ends programs { world with files } commands result left) :
    ∃ left, (Task.inTemporary failed work).Ends programs world commands result left := by
  -- Removing the folder again starts nothing, whether the folder is still there or not.
  obtain ⟨last, removed⟩ : ∃ last,
      (Task.removeTemporary location.path (.done result)).Ends programs left [] result last :=
    removeTemporary ..
  have both : (work location.path >>= fun result =>
      Task.removeTemporary location.path (.done result)).Ends programs { world with files }
        commands result last := ends.then_nothing removed
  refine ⟨last, ?_, ?_⟩
  · simpa only [Task.inTemporary, Task.starts, made] using both.starts
  · simpa only [Task.inTemporary, Task.run, made] using both.run

/-- Where no temporary folder can be made, what is done instead is all that is started. -/
theorem inTemporary_fault {fault : FileFault} (refused : world.files.newTemporary = .error fault)
    (ends : (failed fault).Ends programs world commands result left) :
    (Task.inTemporary failed work).Ends programs world commands result left := by
  -- Without a folder the work is never begun.
  constructor
  · simpa only [Task.inTemporary, Task.starts, refused] using ends.starts
  · simpa only [Task.inTemporary, Task.run, refused] using ends.run

end Ends

end Task

end Manuscript
