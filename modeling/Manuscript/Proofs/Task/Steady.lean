import Manuscript.Task

/-!
A task one request at a time, and tasks whose end does not depend on what others do to the files in
the meantime, as long as the others keep to what they may do.
-/

namespace Manuscript

namespace Task

variable {σ α β : Type} (programs : Programs σ)

/-- The first request of a task answered: what the task goes on with, and the world then. -/
def advance : Task α → World σ → Option (Task α × World σ)
  | .done _, _ => none
  | .warn text next, world => some (next, { world with warnings := world.warnings ++ [text] })
  | .find path next, world => some (next (world.files.kind path), world)
  | .read path next, world => some (next (world.files.read path), world)
  | .write path content next, world =>
    match world.files.write path content with
    | .ok files => some (next (.ok ()), { world with files })
    | .error fault => some (next (.error fault), world)
  | .makeFolder path next, world =>
    match world.files.makeFolder path with
    | .ok files => some (next (.ok ()), { world with files })
    | .error fault => some (next (.error fault), world)
  | .list path next, world => some (next (world.files.list path), world)
  | .current next, world => some (next world.files.current.path, world)
  | .makeTemporary next, world =>
    match world.files.newTemporary with
    | .ok (location, files) => some (next (.ok location.path), { world with files })
    | .error fault => some (next (.error fault), world)
  | .removeTemporary path next, world =>
    match world.files.locate path with
    | .ok location => some (next, { world with files := world.files.remove location })
    | .error _ => some (next, world)
  | .start command next, world =>
    let (outcome, files, memory) := startOn programs command world.files world.memory
    some (next outcome, { world with files, memory })

/-- A task is over exactly when it makes no request. -/
theorem advance_eq_none_iff (task : Task α) (world : World σ) :
    task.advance programs world = none ↔ ∃ result, task = .done result := by
  -- A request that fails is answered as well, so that each of them is a step.
  cases task with
  -- Only a task that is done has nothing left to be answered.
  | done result => simp [advance]
  | write path content next =>
    simp only [advance]
    split <;> simp
  | makeFolder path next =>
    simp only [advance]
    split <;> simp
  | makeTemporary next =>
    simp only [advance]
    split <;> simp
  | removeTemporary path next =>
    simp only [advance]
    split <;> simp
  | _ => simp [advance]

variable {programs}

/-- Running a task is answering its first request and running what it goes on with. -/
theorem run_of_advance {task next : Task α} {world left : World σ}
    (advanced : task.advance programs world = some (next, left)) :
    task.run programs world = next.run programs left := by
  -- Only requests that can fail have two ways to go on.
  cases task with
  -- A task that is done takes no step.
  | done result => cases advanced
  | write path content rest =>
    cases written : world.files.write path content <;>
      simp only [advance, written, Option.some.injEq, Prod.mk.injEq] at advanced <;>
      simp only [run, written, ← advanced.1, ← advanced.2]
  | makeFolder path rest =>
    cases made : world.files.makeFolder path <;>
      simp only [advance, made, Option.some.injEq, Prod.mk.injEq] at advanced <;>
      simp only [run, made, ← advanced.1, ← advanced.2]
  | makeTemporary rest =>
    cases made : world.files.newTemporary <;>
      simp only [advance, made, Option.some.injEq, Prod.mk.injEq] at advanced <;>
      simp only [run, made, ← advanced.1, ← advanced.2]
  | removeTemporary path rest =>
    cases found : world.files.locate path <;>
      simp only [advance, found, Option.some.injEq, Prod.mk.injEq] at advanced <;>
      simp only [run, found, ← advanced.1, ← advanced.2]
  | _ =>
    simp only [advance, Option.some.injEq, Prod.mk.injEq] at advanced
    simp only [run, ← advanced.1, ← advanced.2]

/-- What follows a task waits until the task is over. -/
theorem advance_bind {task : Task α} (unfinished : ∀ result, task ≠ .done result)
    (next : α → Task β) (world : World σ) :
    (task.bind next).advance programs world =
      (task.advance programs world).map fun step => (step.1.bind next, step.2) := by
  -- The first request is that of the task, and its answer is given to the task.
  cases task with
  | done result => exact absurd rfl (unfinished result)
  -- A request that may fail is answered in one of two ways, and both go on alike.
  | write path content rest =>
    simp only [bind, advance]
    split <;> rfl
  | makeFolder path rest =>
    simp only [bind, advance]
    split <;> rfl
  | makeTemporary rest =>
    simp only [bind, advance]
    split <;> rfl
  | removeTemporary path rest =>
    simp only [bind, advance]
    split <;> rfl
  | _ => rfl

/-- A result that a task gives when its requests are answered in some way. -/
def MayGive : Task α → α → Prop
  | .done held, result => held = result
  | .warn _ next, result => next.MayGive result
  | .find _ next, result => ∃ answer, (next answer).MayGive result
  | .read _ next, result => ∃ answer, (next answer).MayGive result
  | .write _ _ next, result => ∃ answer, (next answer).MayGive result
  | .makeFolder _ next, result => ∃ answer, (next answer).MayGive result
  | .list _ next, result => ∃ answer, (next answer).MayGive result
  | .current next, result => ∃ answer, (next answer).MayGive result
  | .makeTemporary next, result => ∃ answer, (next answer).MayGive result
  | .removeTemporary _ next, result => next.MayGive result
  | .start _ next, result => ∃ answer, (next answer).MayGive result

/-- What a task and what follows it may give together, the latter may give behind the former. -/
theorem mayGive_bind_iff {task : Task α} {next : α → Task β} {result : β} :
    (task.bind next).MayGive result ↔
      ∃ held, task.MayGive held ∧ (next held).MayGive result := by
  -- An answer that leads to the result is the same for the first task and for both.
  induction task with
  | done held => exact ⟨fun gives => ⟨held, rfl, gives⟩, fun ⟨_, same, gives⟩ => same ▸ gives⟩
  | warn _ _ ih | removeTemporary _ _ ih => exact ih
  | find _ _ ih | read _ _ ih | write _ _ _ ih | makeFolder _ _ ih | list _ _ ih | current _ ih
  | makeTemporary _ ih | start _ _ ih =>
    constructor
    · rintro ⟨answer, gives⟩
      obtain ⟨held, first, last⟩ := (ih answer).mp gives
      exact ⟨held, ⟨answer, first⟩, last⟩
    · rintro ⟨held, ⟨answer, first⟩, last⟩
      exact ⟨answer, (ih answer).mpr ⟨held, first, last⟩⟩

/-- What a task may give that another goes on with, the latter may give. -/
theorem MayGive.of_advance {task next : Task α} {result : α} {world left : World σ}
    (gives : next.MayGive result) (advanced : task.advance programs world = some (next, left)) :
    task.MayGive result := by
  -- A step chooses one of the answers that the task has to be ready for.
  cases task with
  | done held => cases advanced
  | warn _ _ =>
    cases advanced
    exact gives
  | find _ _ | read _ _ | list _ _ | current _ | start _ _ =>
    cases advanced
    exact ⟨_, gives⟩
  | write _ _ _ | makeFolder _ _ | makeTemporary _ =>
    simp only [advance] at advanced
    split at advanced <;> cases advanced <;> exact ⟨_, gives⟩
  -- This one has a single answer, whether the folder was there or not.
  | removeTemporary _ _ =>
    simp only [advance] at advanced
    split at advanced <;> cases advanced <;> exact gives

/-- One task is what another goes on with. -/
def Follows (programs : Programs σ) (later earlier : Task α) : Prop :=
  ∃ world left, earlier.advance programs world = some (later, left)

/-- No task goes on forever, whatever answers it gets. -/
theorem follows_wellFounded : WellFounded (Follows (α := α) programs) := by
  -- What a task goes on with is one of its own parts.
  refine ⟨fun task => ?_⟩
  induction task with
  -- Nothing follows a task that is done.
  | done result => exact ⟨_, fun _ ⟨_, _, advanced⟩ => by cases advanced⟩
  | warn text next ih =>
    refine ⟨_, fun _ ⟨_, _, advanced⟩ => ?_⟩
    cases advanced
    exact ih
  | removeTemporary path next ih =>
    refine ⟨_, fun _ ⟨_, _, advanced⟩ => ?_⟩
    simp only [advance] at advanced
    split at advanced <;> cases advanced <;> exact ih
  | write path content next ih | makeFolder path next ih | makeTemporary next ih =>
    refine ⟨_, fun _ ⟨_, _, advanced⟩ => ?_⟩
    simp only [advance] at advanced
    split at advanced <;> cases advanced <;> exact ih _
  | find path next ih | read path next ih | list path next ih | current next ih
  | start command next ih =>
    refine ⟨_, fun _ ⟨_, _, advanced⟩ => ?_⟩
    cases advanced
    exact ih _

/-- What holds of tasks that are over, and of one when it does of all that it goes on with. -/
@[elab_as_elim]
theorem follows_induction (programs : Programs σ) {motive : Task α → Prop}
    (done : ∀ result, motive (.done result))
    (step : ∀ task, (∀ result, task ≠ .done result) →
      (∀ next, Follows programs next task → motive next) → motive task) (task : Task α) :
    motive task := by
  -- A task that follows others comes to an end, so that the induction is well founded.
  have ends : WellFounded (Follows (α := α) programs) := follows_wellFounded
  refine ends.induction task fun task ih => ?_
  by_cases finished : ∃ result, task = .done result
  · obtain ⟨result, rfl⟩ := finished
    exact done result
  · exact step task (fun result same => finished ⟨result, same⟩) ih

/-- A task that is not over makes a request, which is answered. -/
theorem exists_advance (programs : Programs σ) {task : Task α}
    (unfinished : ∀ result, task ≠ .done result) (world : World σ) :
    ∃ next left, task.advance programs world = some (next, left) := by
  -- Without a step the task would be over.
  cases advanced : task.advance programs world with
  | none =>
    obtain ⟨result, same⟩ := (advance_eq_none_iff programs task world).mp advanced
    exact absurd same (unfinished result)
  | some step => exact ⟨step.1, step.2, rfl⟩

/-- What a task gives that runs without a break is what it may give. -/
theorem mayGive_run (programs : Programs σ) (task : Task α) (world : World σ) :
    task.MayGive (task.run programs world).1 := by
  -- What may be given behind a step may be given in front of it.
  induction task using follows_induction programs generalizing world with
  | done result => rfl
  | step task unfinished ih =>
    obtain ⟨next, left, advanced⟩ := exists_advance programs unfinished world
    rw [run_of_advance advanced]
    exact (ih next ⟨world, left, advanced⟩ left).of_advance advanced

/--
A task that, from some files on, reaches its end as it should, whatever others do to them before
each of its requests that can be relied on. What it does to them itself it does as a task that may
still give its result: what is done may depend on how it is to end.
-/
inductive Steady (programs : Programs σ) (rely : Files → Files → Prop)
    (does : α → Files → Files → Prop) (post : α → Files → Prop) : Task α → Files → Prop
  /-- The task is over. -/
  | done {result : α} {files : Files} (reached : post result files) :
    Steady programs rely does post (.done result) files
  /-- The task has a request. -/
  | step {task : Task α} {files : Files} (unfinished : ∀ result, task ≠ .done result)
    (within : ∀ world next left, rely files world.files →
      task.advance programs world = some (next, left) →
      ∀ result, next.MayGive result → does result world.files left.files)
    (behind : ∀ world next left, rely files world.files →
      task.advance programs world = some (next, left) →
      Steady programs rely does post next left.files) :
    Steady programs rely does post task files

namespace Steady

variable {rely : Files → Files → Prop} {does : α → Files → Files → Prop} {post : α → Files → Prop}
  {goal : β → Files → Prop} {files : Files} {task : Task α}

/-- What holds at the end of a steady task may be weakened. -/
theorem weaken {other : α → Files → Prop} (steady : task.Steady programs rely does post files)
    (enough : ∀ result files, post result files → other result files) :
    task.Steady programs rely does other files := by
  -- Only the end is told about, and all steps stay the same.
  induction steady with
  | done reached => exact .done (enough _ _ reached)
  | step unfinished within _ ih => exact .step unfinished within ih

/-- A steady task stays so while others work, if what holds at its end lasts. -/
theorem mono {later : Files} (steady : task.Steady programs rely does post files)
    (grown : rely files later) (trans : ∀ {a b c}, rely a b → rely b c → rely a c)
    (lasting : ∀ result {files later}, post result files → rely files later → post result later) :
    task.Steady programs rely does post later := by
  -- What others have done already is put before what they do until the next request.
  cases steady with
  | done reached => exact .done (lasting _ reached grown)
  | step unfinished within behind =>
    exact .step unfinished
      (fun world next left further => within world next left (trans grown further))
      fun world next left further => behind world next left (trans grown further)

/-- A steady task with steady work behind it is steady, if it does what is done for any end. -/
theorem bind_of {any : α → Files → Files → Prop} {does : β → Files → Files → Prop}
    {next : α → Task β} (first : task.Steady programs rely any post files)
    (enough : ∀ held result, (next held).MayGive result →
      ∀ files later, any held files later → does result files later)
    (last : ∀ result {files}, post result files →
      (next result).Steady programs rely does goal files) :
    (task >>= next).Steady programs rely does goal files := by
  show (task.bind next).Steady programs rely does goal files
  induction first with
  | done reached => exact last _ reached
  | @step task files unfinished within behind ih =>
    -- The first request is one of the first task, and what is left of this is bound to the rest.
    have split : ∀ {world : World σ} {later left},
        (task.bind next).advance programs world = some (later, left) →
        ∃ rest, task.advance programs world = some (rest, left) ∧ rest.bind next = later := by
      intro world later left advanced
      rw [advance_bind unfinished] at advanced
      obtain ⟨⟨rest, after⟩, answered, same⟩ := Option.map_eq_some_iff.mp advanced
      cases same
      exact ⟨rest, answered, rfl⟩
    refine .step (fun result finished => ?_) ?_ ?_
    · -- The bound task is done only if the first one was.
      cases task with
      | done held => exact unfinished held rfl
      | _ => cases finished
    · intro world later left further advanced result gives
      obtain ⟨rest, answered, rfl⟩ := split advanced
      -- What is given in the end comes through some result of the first task.
      obtain ⟨held, before, behind⟩ := mayGive_bind_iff.mp gives
      exact enough held result behind _ _ (within world rest left further answered held before)
    · intro world later left further advanced
      obtain ⟨rest, answered, rfl⟩ := split advanced
      exact ih world rest left further answered

/-- A steady task with steady work behind it is steady, if what they do depends on no end. -/
theorem bind {does : Files → Files → Prop} {next : α → Task β}
    (first : task.Steady programs rely (fun _ => does) post files)
    (last : ∀ result {files}, post result files →
      (next result).Steady programs rely (fun _ => does) goal files) :
    (task >>= next).Steady programs rely (fun _ => does) goal files :=
  -- What is done does not depend on the result here.
  first.bind_of (fun _ _ _ _ _ => id) last

/-- What a steady task gives, and what it did to the files, when it runs without a break. -/
theorem run (steady : task.Steady programs rely does post files)
    (reflRely : ∀ files, rely files files)
    (refl : ∀ result files, does result files files)
    (trans : ∀ {result a b c}, does result a b → does result b c → does result a c)
    (lasting : ∀ result {files later}, post result files → rely files later → post result later)
    {world : World σ} (grown : rely files world.files) :
    post (task.run programs world).1 (task.run programs world).2.files ∧
      does (task.run programs world).1 world.files (task.run programs world).2.files := by
  induction steady generalizing world with
  -- A task that is done is left with what others did meanwhile.
  | done reached => exact ⟨lasting _ reached grown, refl _ _⟩
  | @step task files unfinished within behind ih =>
    obtain ⟨next, left, advanced⟩ := exists_advance programs unfinished world
    obtain ⟨reached, after⟩ := ih world next left grown advanced (reflRely left.files)
    rw [run_of_advance advanced]
    -- What was done first was done by a task that still gives the result of the run.
    have first := within world next left grown advanced _ (mayGive_run programs next left)
    exact ⟨reached, trans first after⟩

/-- A task that asks what a path leads to is steady if it is so whatever is there by then. -/
theorem find {path : Path} {next : Except FileFault EntryKind → Task α}
    (refl : ∀ result files, does result files files)
    (rest : ∀ later, rely files later →
      (next (later.kind path)).Steady programs rely does post later) :
    (Task.find path next).Steady programs rely does post files := by
  refine .step (fun _ => nofun) ?_ ?_ <;> intro world later left grown advanced <;> cases advanced
  · -- Looking changes nothing.
    exact fun _ _ => refl _ _
  · exact rest _ grown

/-- A task that reads a file is steady if it is so whatever is there by then. -/
theorem read {path : Path} {next : Except FileFault Bytes → Task α}
    (refl : ∀ result files, does result files files)
    (rest : ∀ later, rely files later →
      (next (later.read path)).Steady programs rely does post later) :
    (Task.read path next).Steady programs rely does post files := by
  refine .step (fun _ => nofun) ?_ ?_ <;> intro world later left grown advanced <;> cases advanced
  · -- Reading changes nothing.
    exact fun _ _ => refl _ _
  · exact rest _ grown

/-- A task that asks for the current folder is steady if it is so whichever this is by then. -/
theorem current {next : Path → Task α} (refl : ∀ result files, does result files files)
    (rest : ∀ later, rely files later →
      (next later.current.path).Steady programs rely does post later) :
    (Task.current next).Steady programs rely does post files := by
  refine .step (fun _ => nofun) ?_ ?_ <;> intro world later left grown advanced <;> cases advanced
  · -- Asking for the folder of the process changes nothing.
    exact fun _ _ => refl _ _
  · exact rest _ grown

/-- A task that gives a warning is steady if it is so behind the warning. -/
theorem warn {text : String} {next : Task α} (refl : ∀ result files, does result files files)
    (rest : ∀ later, rely files later → next.Steady programs rely does post later) :
    (Task.warn text next).Steady programs rely does post files := by
  refine .step (fun _ => nofun) ?_ ?_ <;> intro world later left grown advanced <;> cases advanced
  · -- A warning is no change of the files.
    exact fun _ _ => refl _ _
  · exact rest _ grown

/-- A task that makes a folder is steady if it may do so by then and is steady behind that. -/
theorem makeFolder {path : Path} {next : Except FileFault Unit → Task α}
    (refl : ∀ result files, does result files files)
    (made : ∀ later made, rely files later → later.makeFolder path = .ok made →
      (∀ result, (next (.ok ())).MayGive result → does result later made) ∧
        (next (.ok ())).Steady programs rely does post made)
    (failed : ∀ later fault, rely files later → later.makeFolder path = .error fault →
      (next (.error fault)).Steady programs rely does post later) :
    (Task.makeFolder path next).Steady programs rely does post files := by
  -- The request is one step, which succeeds or fails by the files of that moment.
  refine .step (fun _ => nofun) ?_ ?_ <;> intro world later left grown advanced <;>
    cases answer : world.files.makeFolder path <;>
    simp only [advance, answer, Option.some.injEq, Prod.mk.injEq] at advanced <;>
    obtain ⟨rfl, rfl⟩ := advanced
  · exact fun _ _ => refl _ _
  · exact (made _ _ grown answer).1
  · exact failed _ _ grown answer
  · exact (made _ _ grown answer).2

/-- A task that writes a file is steady if it may do so by then and is steady behind that. -/
theorem write {path : Path} {content : Bytes} {next : Except FileFault Unit → Task α}
    (refl : ∀ result files, does result files files)
    (written : ∀ later written, rely files later → later.write path content = .ok written →
      (∀ result, (next (.ok ())).MayGive result → does result later written) ∧
        (next (.ok ())).Steady programs rely does post written)
    (failed : ∀ later fault, rely files later → later.write path content = .error fault →
      (next (.error fault)).Steady programs rely does post later) :
    (Task.write path content next).Steady programs rely does post files := by
  -- The request is one step, as for a folder.
  refine .step (fun _ => nofun) ?_ ?_ <;> intro world later left grown advanced <;>
    cases answer : world.files.write path content <;>
    simp only [advance, answer, Option.some.injEq, Prod.mk.injEq] at advanced <;>
    obtain ⟨rfl, rfl⟩ := advanced
  · exact fun _ _ => refl _ _
  · exact (written _ _ grown answer).1
  · exact failed _ _ grown answer
  · exact (written _ _ grown answer).2

end Steady

end Task

end Manuscript
