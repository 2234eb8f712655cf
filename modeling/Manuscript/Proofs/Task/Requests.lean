import Manuscript.Proofs.Task.Steady

/-!
What a task may ask for. From the requests that a task may make follows what it may do to the files,
and a task that only looks gives what it is told, whatever others do in the meantime.
-/

namespace Manuscript

/-- What a task asks for before it goes on. -/
inductive Request where
  /-- That a warning is given. -/
  | warn (text : String)
  /-- What a path leads to. -/
  | find (path : Path)
  /-- What a file holds. -/
  | read (path : Path)
  /-- That a file is written. -/
  | write (path : Path) (content : Bytes)
  /-- That a folder is made. -/
  | makeFolder (path : Path)
  /-- The names in a folder. -/
  | list (path : Path)
  /-- The current folder. -/
  | current
  /-- That a temporary folder is made. -/
  | makeTemporary
  /-- That a temporary folder is removed. -/
  | removeTemporary (path : Path)
  /-- That a program is started. -/
  | start (command : Command)

namespace Request

/-- A warning, or a question of what is there. -/
def IsLook : Request → Prop
  | .warn _ | .find _ | .read _ | .current => True
  | _ => False

/-- Nothing but a warning. -/
def IsWarning : Request → Prop
  | .warn _ => True
  | _ => False

/-- Whoever may only give warnings may look as well. -/
theorem IsWarning.isLook {request : Request} (warning : request.IsWarning) : request.IsLook := by
  cases request with
  | warn _ => trivial
  | _ => cases warning

/-- What an answered request may have done to the files of a world. -/
def Does {σ : Type} (programs : Programs σ) (world : World σ) : Request → Files → Prop
  | .write path content, left => left = world.files ∨ world.files.write path content = .ok left
  | .makeFolder path, left => left = world.files ∨ world.files.makeFolder path = .ok left
  | .makeTemporary, left => left = world.files ∨
    ∃ location, world.files.newTemporary = .ok (location, left)
  | .removeTemporary path, left => left = world.files ∨
    ∃ location, world.files.locate path = .ok location ∧ left = world.files.remove location
  | .start command, left => left = (Task.startOn programs command world.files world.memory).2.1
  | _, left => left = world.files

/-- Looking does nothing. -/
theorem IsLook.does {σ : Type} {programs : Programs σ} {world : World σ} {request : Request}
    {left : Files} (look : request.IsLook) (does : request.Does programs world left) :
    left = world.files := by
  -- A look leaves the files as they are, and nothing else counts as one.
  cases request with
  | warn _ | find _ | read _ | current => exact does
  | _ => cases look

end Request

namespace Task

variable {σ α β : Type} {programs : Programs σ} {may : Request → Prop} {task : Task α}

/-- All that a task may ask for, whatever the answers are, it is allowed to. -/
def Asks (may : Request → Prop) : Task α → Prop
  | .done _ => True
  | .warn text next => may (.warn text) ∧ next.Asks may
  | .find path next => may (.find path) ∧ ∀ answer, (next answer).Asks may
  | .read path next => may (.read path) ∧ ∀ answer, (next answer).Asks may
  | .write path content next => may (.write path content) ∧ ∀ answer, (next answer).Asks may
  | .makeFolder path next => may (.makeFolder path) ∧ ∀ answer, (next answer).Asks may
  | .list path next => may (.list path) ∧ ∀ answer, (next answer).Asks may
  | .current next => may .current ∧ ∀ answer, (next answer).Asks may
  | .makeTemporary next => may .makeTemporary ∧ ∀ answer, (next answer).Asks may
  | .removeTemporary path next => may (.removeTemporary path) ∧ next.Asks may
  | .start command next => may (.start command) ∧ ∀ answer, (next answer).Asks may

/-- What is allowed to a task and to what follows it is allowed to both together. -/
theorem Asks.bind {next : α → Task β} (first : task.Asks may)
    (last : ∀ result, (next result).Asks may) : (task.bind next).Asks may := by
  -- What follows takes the place of the end, behind all requests of the task.
  induction task with
  | done result => exact last result
  | warn _ _ ih | removeTemporary _ _ ih => exact ⟨first.1, ih first.2⟩
  | find _ _ ih | read _ _ ih | write _ _ _ ih | makeFolder _ _ ih | list _ _ ih | current _ ih
  | makeTemporary _ ih | start _ _ ih => exact ⟨first.1, fun answer => ih answer (first.2 answer)⟩

/-- More may be allowed. -/
theorem Asks.weaken {more : Request → Prop} (asks : task.Asks may)
    (enough : ∀ request, may request → more request) : task.Asks more := by
  -- Every request of the task is asked for again, with more allowed.
  induction task with
  | done result => trivial
  | warn _ _ ih | removeTemporary _ _ ih => exact ⟨enough _ asks.1, ih asks.2⟩
  | find _ _ ih | read _ _ ih | write _ _ _ ih | makeFolder _ _ ih | list _ _ ih | current _ ih
  | makeTemporary _ ih | start _ _ ih =>
    exact ⟨enough _ asks.1, fun answer => ih answer (asks.2 answer)⟩

/-- What is allowed for each of some things is allowed for all of them in order. -/
theorem asks_each {work : α → Task β} {items : List α}
    (each : ∀ item ∈ items, (work item).Asks may) : (Task.each work items).Asks may := by
  induction items with
  | nil => trivial
  | cons item rest ih =>
    obtain ⟨first, others⟩ := List.forall_mem_cons.mp each
    -- What comes of an item decides nothing for those behind it.
    exact first.bind fun _ => (ih others).bind fun _ => trivial

/-- A task that goes on has done what an allowed request does, and asks for no more. -/
theorem Asks.advance {next : Task α} {world left : World σ} (asks : task.Asks may)
    (advanced : task.advance programs world = some (next, left)) :
    next.Asks may ∧ ∃ request, may request ∧ request.Does programs world left.files := by
  cases task with
  | done result => cases advanced
  | warn _ _ =>
    cases advanced
    exact ⟨asks.2, _, asks.1, rfl⟩
  -- A question is answered, and changes nothing.
  | find _ _ | read _ _ | list _ _ | current _ | start _ _ =>
    cases advanced
    exact ⟨asks.2 _, _, asks.1, rfl⟩
  -- A request for a change that fails has done nothing.
  | write path content rest =>
    simp only [Task.advance] at advanced
    split at advanced <;> cases advanced
    case h_1 written => exact ⟨asks.2 _, _, asks.1, .inr written⟩
    case h_2 => exact ⟨asks.2 _, _, asks.1, .inl rfl⟩
  | makeFolder path rest =>
    simp only [Task.advance] at advanced
    split at advanced <;> cases advanced
    case h_1 made => exact ⟨asks.2 _, _, asks.1, .inr made⟩
    case h_2 => exact ⟨asks.2 _, _, asks.1, .inl rfl⟩
  | makeTemporary rest =>
    simp only [Task.advance] at advanced
    split at advanced <;> cases advanced
    case h_1 made => exact ⟨asks.2 _, _, asks.1, .inr ⟨_, made⟩⟩
    case h_2 => exact ⟨asks.2 _, _, asks.1, .inl rfl⟩
  | removeTemporary path rest =>
    simp only [Task.advance] at advanced
    split at advanced <;> cases advanced
    case h_1 found => exact ⟨asks.2, _, asks.1, .inr ⟨_, found, rfl⟩⟩
    case h_2 => exact ⟨asks.2, _, asks.1, .inl rfl⟩

section Effects

variable {does : Files → Files → Prop}
  (within : ∀ request, may request → ∀ (world : World σ) left,
    request.Does programs world left → does world.files left)

include within

/-- A task does nothing to the files but what its requests do. -/
theorem Asks.run (asks : task.Asks may) (refl : ∀ files, does files files)
    (trans : ∀ {a b c}, does a b → does b c → does a c) (world : World σ) :
    does world.files (task.run programs world).2.files := by
  -- Each request does what it is allowed to do, and the rest of the task adds to that.
  induction task using follows_induction programs generalizing world with
  | done result => exact refl _
  | step task unfinished ih =>
    obtain ⟨next, left, advanced⟩ := exists_advance programs unfinished world
    obtain ⟨more, request, allowed, done⟩ := asks.advance advanced
    rw [run_of_advance advanced]
    exact trans (within request allowed world _ done) (ih next ⟨world, left, advanced⟩ more left)

/-- A task does what its requests do, whatever others do, and what all of them do adds up. -/
theorem Asks.steady {rely : Files → Files → Prop} {given : α → Files → Files → Prop} {later : Files}
    (asks : task.Asks may) (enough : ∀ result {files later}, does files later →
      given result files later)
    (trans : ∀ {a b c}, rely a b → rely b c → rely a c)
    (among : ∀ {files later}, does files later → rely files later) (grown : rely files later) :
    task.Steady programs rely given (fun _ left => rely files left) later := by
  induction task using follows_induction programs generalizing later with
  | done result => exact .done grown
  | step task unfinished ih =>
    refine .step unfinished ?_ ?_
    · intro world next left _ advanced result _
      obtain ⟨-, request, allowed, done⟩ := asks.advance advanced
      exact enough result (within request allowed world _ done)
    · -- What the task does itself is among what it relies on, so that all of it adds up.
      intro world next left further advanced
      obtain ⟨more, request, allowed, done⟩ := asks.advance advanced
      exact ih next ⟨world, left, advanced⟩ more
        (trans (trans grown further) (among (within request allowed world _ done)))

end Effects

/-- The paths that a task looks at on some files, as far as it only looks. -/
def looks : Task α → Files → List Path
  | .warn _ next, files => next.looks files
  | .find path next, files => path :: (next (files.kind path)).looks files
  | .read path next, files => path :: (next (files.read path)).looks files
  | .current next, files => (next files.current.path).looks files
  | _, _ => []

/-- A task that only warns looks at nothing. -/
theorem Asks.looks_eq_nil (asks : task.Asks Request.IsWarning) (files : Files) :
    task.looks files = [] := by
  -- There are no requests but warnings.
  induction task with
  | done result => rfl
  | warn text next ih => exact ih asks.2
  | _ => cases asks.1

/--
What a task may give that only looks, when each of its questions is answered by some of the files
that it may see.
-/
inductive Gives (seen : Files → Prop) : Task α → α → Prop
  /-- The task is over. -/
  | done {result : α} : Gives seen (.done result) result
  /-- A warning is given. -/
  | warn {text : String} {next : Task α} {result : α} (rest : Gives seen next result) :
    Gives seen (.warn text next) result
  /-- The task is told what a path leads to. -/
  | find {path : Path} {next : Except FileFault EntryKind → Task α} {result : α} {files : Files}
    (saw : seen files) (rest : Gives seen (next (files.kind path)) result) :
    Gives seen (.find path next) result
  /-- The task is told what a file holds. -/
  | read {path : Path} {next : Except FileFault Bytes → Task α} {result : α} {files : Files}
    (saw : seen files) (rest : Gives seen (next (files.read path)) result) :
    Gives seen (.read path next) result
  /-- The task is told the current folder. -/
  | current {next : Path → Task α} {result : α} {files : Files} (saw : seen files)
    (rest : Gives seen (next files.current.path) result) : Gives seen (.current next) result

variable {seen : Files → Prop} {files : Files}

/-- What a task and what follows it give together, the latter gives behind what the former gives. -/
theorem gives_bind_iff {next : α → Task β} {result : β} :
    (task.bind next).Gives seen result ↔
      ∃ held, task.Gives seen held ∧ (next held).Gives seen result := by
  -- Each look belongs to the first task until that is done; then come those of what follows.
  constructor
  · intro gives
    induction task with
    | done held => exact ⟨held, .done, gives⟩
    | warn _ _ ih =>
      cases gives with
      | warn rest => exact (ih rest).imp fun _ both => ⟨.warn both.1, both.2⟩
    | find _ _ ih =>
      cases gives with
      | find saw rest => exact (ih _ rest).imp fun _ both => ⟨.find saw both.1, both.2⟩
    | read _ _ ih =>
      cases gives with
      | read saw rest => exact (ih _ rest).imp fun _ both => ⟨.read saw both.1, both.2⟩
    | current _ ih =>
      cases gives with
      | current saw rest => exact (ih _ rest).imp fun _ both => ⟨.current saw both.1, both.2⟩
    | _ => cases gives
  · -- Back again, the looks of the one are put before those of the other.
    rintro ⟨held, first, last⟩
    induction first with
    | done => exact last
    | warn _ ih => exact .warn (ih last)
    | find saw _ ih => exact .find saw (ih last)
    | read saw _ ih => exact .read saw (ih last)
    | current saw _ ih => exact .current saw (ih last)

/-- What a task gives that only looks, when all that it sees is as on some files. -/
theorem Gives.eq_run {result : α} (gives : task.Gives seen result)
    (current : ∀ other, seen other → other.current = files.current)
    (same : ∀ path ∈ task.looks files, ∀ other, seen other → other.find path = files.find path)
    (world : World σ) (here : world.files = files) :
    result = (task.run programs world).1 := by
  -- Each question is answered as on the files, so that the task goes on as in its run.
  induction gives generalizing world with
  | done => rfl
  | warn _ ih => exact ih same _ here
  | @find path next result other saw _ ih =>
    have answer : other.kind path = files.kind path := by
      simp only [Files.kind, same path List.mem_cons_self other saw]
    simp only [answer, Task.run, here] at ih ⊢
    exact ih (fun path member => same path (List.mem_cons_of_mem _ member)) world here
  | @read path next result other saw _ ih =>
    have answer : other.read path = files.read path := by
      simp only [Files.read, same path List.mem_cons_self other saw]
    simp only [answer, Task.run, here] at ih ⊢
    exact ih (fun path member => same path (List.mem_cons_of_mem _ member)) world here
  | @current next result other saw _ ih =>
    -- The folder of the process is the same for all.
    simp only [current other saw, Task.run, here] at ih ⊢
    exact ih same world here

/-- A task that only looks is steady, and gives what it is told. -/
theorem Asks.steady_gives {rely : Files → Files → Prop} {does : α → Files → Files → Prop}
    {later : Files} (asks : task.Asks Request.IsLook)
    (refl : ∀ result files, does result files files)
    (trans : ∀ {a b c}, rely a b → rely b c → rely a c) (grown : rely files later) :
    task.Steady programs rely does
      (fun result left => rely files left ∧ task.Gives (rely files) result) later := by
  -- What the task is told is what stands in the files by then, which the others have left.
  induction task generalizing later with
  | done result => exact .done ⟨grown, .done⟩
  | warn text next ih =>
    refine .warn refl fun left further => ?_
    exact (ih asks.2 (trans grown further)).weaken fun _ _ both => ⟨both.1, .warn both.2⟩
  | find path next ih =>
    refine .find refl fun left further => ?_
    have saw := trans grown further
    exact (ih _ (asks.2 _) saw).weaken fun _ _ both => ⟨both.1, .find saw both.2⟩
  | read path next ih =>
    refine .read refl fun left further => ?_
    have saw := trans grown further
    exact (ih _ (asks.2 _) saw).weaken fun _ _ both => ⟨both.1, .read saw both.2⟩
  | current next ih =>
    refine .current refl fun left further => ?_
    have saw := trans grown further
    exact (ih _ (asks.2 _) saw).weaken fun _ _ both => ⟨both.1, .current saw both.2⟩
  -- All other requests are no looks.
  | _ => cases asks.1

/-- What a task gives that only looks, by itself, it may give on the files that it is run on. -/
theorem Asks.gives_run (asks : task.Asks Request.IsLook) (world : World σ) :
    task.Gives (· = world.files) (task.run programs world).1 := by
  -- A task by itself relies on others to do nothing.
  have alone : task.Steady programs (fun files later => later = files) (fun _ => Eq)
      (fun result left => left = world.files ∧ task.Gives (· = world.files) result) world.files :=
    asks.steady_gives (fun _ _ => rfl) (fun first last => last.trans first) rfl
  refine (alone.run (fun _ => rfl) (fun _ _ => rfl) (fun first last => first.trans last) ?_ rfl).1.2
  rintro result files later ⟨rfl, gives⟩ rfl
  exact ⟨rfl, gives⟩

end Task

end Manuscript
