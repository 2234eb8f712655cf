import Manuscript.Proofs.Files.Growth
import Mathlib.Data.List.Induction

/-!
Walks on which missing folders are made: where they lead, which folders they make, and what comes of
making a folder or writing a file behind them. All of this is told by the files before the first of
these folders is made.
-/

namespace Manuscript

/-- A location, unless a file stands there. -/
def Files.unlessFile (files : Files) (location : Location) : Except FileFault Location :=
  match files.entry? location with
  | some (.file _) => .error .notFolder
  | _ => .ok location

/-- Where no file stands a location is kept. -/
theorem Files.unlessFile_eq_ok {files : Files} {location found : Location}
    (kept : files.unlessFile location = .ok found) : location = found := by
  unfold unlessFile at kept
  split at kept
  · cases kept
  · exact Except.ok.inj kept

/-- A walk on which missing folders are made. -/
structure Way where
  /-- Where it leads, or why it leads nowhere. -/
  goal : Except FileFault Location
  /-- The folders that are missing on it. -/
  made : List Location

namespace Way

/-- Where one step more leads by its name. -/
def next (way : Way) (name : Name) : Except FileFault Location :=
  way.goal.bind fun location => Files.stepFrom location name

/-- One step more, on files where nothing was made yet: a folder is made where nothing stands. -/
def step (files : Files) (way : Way) (name : Name) : Way where
  goal := (way.next name).bind files.unlessFile
  made := way.made ++
    ((way.next name).toOption.filter fun location => files.entry? location = none).toList

/-- What comes of making one folder more. -/
def makes (files : Files) (way : Way) (last : Name) : Except FileFault Unit :=
  (way.next last).bind fun location =>
    match files.entry? location with
    | some (.file _) => .error .present
    | _ => .ok ()

end Way

namespace Files

/-- The walk along steps from a folder. -/
def way (files : Files) (origin : Location) (steps : List Name) : Way :=
  steps.foldl (Way.step files) ⟨.ok origin, []⟩

/-- What comes of making a folder and the folders around it. -/
def makesFolders (files : Files) (path : Path) : Except FileFault Unit :=
  if path.chars = [] then .ok ()
  else
    match path.fault? with
    | some fault => .error fault
    | none =>
      match path.steps.getLast? with
      | none => .ok ()
      | some last => (files.way (files.start path).1 path.steps.dropLast).makes files last

/-- Behind the first folder that is missing no step leads back. -/
def LeadsOn (files : Files) (origin : Location) (steps : List Name) : Prop :=
  ∀ before rest, steps = before ++ rest → (files.way origin before).made ≠ [] →
    ['.', '.'] ∉ rest

variable {files later : Files} {plan : Plan} {targets : Location → Prop} {origin : Location}

/-- A walk takes its last step where the steps before it lead. -/
theorem way_concat (steps : List Name) (last : Name) :
    files.way origin (steps ++ [last]) = (files.way origin steps).step files last := by
  rw [way, List.foldl_append]
  rfl

/-- Steps of which none leads back lead on. -/
theorem LeadsOn.of_notMem {steps : List Name} (onward : ['.', '.'] ∉ steps) :
    files.LeadsOn origin steps := by
  rintro before rest rfl - member
  exact onward (List.mem_append_right before member)

/-- A beginning of steps that lead on leads on. -/
theorem LeadsOn.of_append {first last : List Name} (onward : files.LeadsOn origin (first ++ last)) :
    files.LeadsOn origin first := by
  intro before rest cut missing member
  refine onward before (rest ++ last) ?_ missing (List.mem_append_left _ member)
  rw [cut, List.append_assoc]

/-- Folders that a step makes are those before it and perhaps one more. -/
theorem mem_made_step {way : Way} {name : Name} {location : Location} :
    location ∈ (way.step files name).made ↔
      location ∈ way.made ∨ (way.next name = .ok location ∧ files.entry? location = none) := by
  rw [Way.step, List.mem_append, Option.mem_toList, Option.filter_eq_some_iff, decide_eq_true_eq]
  cases way.next name <;> simp [Except.toOption]

/-- Nothing stood where a walk makes a folder. -/
theorem entry?_of_mem_made {steps : List Name} {location : Location}
    (member : location ∈ (files.way origin steps).made) : files.entry? location = none := by
  induction steps using List.reverseRecOn with
  | nil => cases member
  | append_singleton steps last ih =>
    rw [way_concat, mem_made_step] at member
    -- A folder was made at an earlier step, or it is the last one, made since nothing stood there.
    exact member.elim ih And.right

/-- The folders that a walk makes are there. -/
def Made (later files : Files) (origin : Location) (steps : List Name) : Prop :=
  ∀ location ∈ (files.way origin steps).made, later.entry? location = some .folder

/-- What was made is still there. -/
theorem Made.mono {grown : Files} {steps : List Name} (made : Made later files origin steps)
    (chosen : ∀ location ∈ (files.way origin steps).made, plan location = some .folder)
    (grows : Grows plan later grown) : Made grown files origin steps :=
  fun location member => grows.planned (chosen location member) (made location member)

/-- The folders of a walk are there when those before its last step are, and a new one too. -/
theorem made_concat_iff {steps : List Name} {last : Name} :
    Made later files origin (steps ++ [last]) ↔
      Made later files origin steps ∧
        ∀ location, (files.way origin steps).next last = .ok location →
          files.entry? location = none → later.entry? location = some .folder := by
  unfold Made
  -- The walk to the last step has made the folders before it, and the step at most one more.
  simp only [way_concat, mem_made_step]
  exact ⟨fun held => ⟨fun location member => held location (.inl member),
      fun location leads empty => held location (.inr ⟨leads, empty⟩)⟩,
    fun held location member => member.elim (held.1 location)
      fun new => held.2 location new.1 new.2⟩

/-- When the steps before the last one lead to the same, the last one is taken from there. -/
theorem enter_of_goal {steps : List Name} {last : Name}
    (entered : later.enter origin steps = (files.way origin steps).goal) :
    later.enter origin (steps ++ [last]) =
      ((files.way origin steps).next last).bind later.folderAt := by
  rw [enter_append, Way.next, ← entered]
  -- Where the steps before lead nowhere, the last one is not taken.
  cases front : later.enter origin steps with
  | error fault => rfl
  | ok location =>
    show later.enter location [last] = (stepFrom location last).bind later.folderAt
    rw [enter_cons, folderAt, entry?_of_enter front]
    rfl

/--
A location where a folder is planned if nothing stands there: by now it is as it will be when the
folder is made, or the folder is missing.
-/
theorem Grows.folderAt_eq (grown : Grows plan files later) (planned : files.IsPlan targets plan)
    {location : Location} (chosen : files.entry? location = none → plan location = some .folder) :
    ((files.entry? location = none → later.entry? location = some .folder) ∧
        later.folderAt location = files.unlessFile location) ∨
      files.entry? location = none ∧ later.entry? location ≠ some .folder ∧
        later.folderAt location = .error .missing := by
  cases stood : files.entry? location with
  | some entry =>
    -- What stood there does so still.
    refine .inl ⟨fun empty => (by cases empty), ?_⟩
    cases entry with
    | file content =>
      obtain ⟨content, stands⟩ := grown.file planned stood
      rw [folderAt, stands, unlessFile, stood]
    | folder => rw [folderAt, grown.folder planned stood, unlessFile, stood]
  | none =>
    -- What was not there may have been made, and then it is what was planned.
    rcases grown.entry location with same | ⟨entry, again, stands⟩
    · rw [stood] at same
      exact .inr ⟨rfl, by simp [same], by rw [folderAt, same]⟩
    · obtain rfl := Option.some.inj ((chosen stood).symm.trans again)
      exact .inl ⟨fun _ => stands, by rw [folderAt, stands, unlessFile, stood]⟩

/--
A walk that meets missing folders leads, on files that have grown, where it leads when they are
made, once they are all there, and leads nowhere as long as one of them is missing.
-/
theorem Grows.enter_eq (grown : Grows plan files later) (planned : files.IsPlan targets plan)
    (folder : files.entry? origin = some .folder) {steps : List Name}
    (chosen : ∀ location ∈ (files.way origin steps).made, plan location = some .folder) :
    (Made later files origin steps ∧
        later.enter origin steps = (files.way origin steps).goal) ∨
      (¬ Made later files origin steps ∧ later.enter origin steps = .error .missing) := by
  -- Whether the last folder is there is asked only once all those before it are.
  induction steps using List.reverseRecOn with
  | nil =>
    refine .inl ⟨fun _ member => absurd member List.not_mem_nil, ?_⟩
    rw [enter_nil, folderAt, grown.folder planned folder]
    rfl
  | append_singleton steps last ih =>
    rw [way_concat] at chosen
    rw [made_concat_iff]
    rcases ih fun location member => chosen location (mem_made_step.mpr (.inl member)) with
      ⟨made, entered⟩ | ⟨missing, entered⟩
    · rw [enter_of_goal entered, way_concat, Way.step]
      -- The last step fails alike in both, or leads to a folder that is there or was made.
      cases leads : (files.way origin steps).next last with
      | error fault => exact .inl ⟨⟨made, fun _ found => (by cases found)⟩, rfl⟩
      | ok next =>
        have here : ∀ location, Except.ok next = (.ok location : Except FileFault Location) →
            next = location := fun _ => Except.ok.inj
        rcases grown.folderAt_eq planned fun empty =>
            chosen next (mem_made_step.mpr (.inr ⟨leads, empty⟩)) with
          ⟨there, same⟩ | ⟨empty, absent, missing⟩
        · exact .inl ⟨⟨made, fun location found => here location found ▸ there⟩, same⟩
        · exact .inr ⟨fun held => absent (held.2 next rfl empty), missing⟩
    · -- A folder that is missing before it ends the walk.
      refine .inr ⟨fun held => missing held.1, ?_⟩
      rw [enter_append, entered]
      rfl

/-- Nothing stands where a step leads on from where nothing stands. -/
theorem IsTree.entry?_stepFrom (tree : files.IsTree) {location next : Location} {name : Name}
    (empty : files.entry? location = none) (onward : name ≠ ['.', '.'])
    (leads : stepFrom location name = .ok next) : files.entry? next = none := by
  -- The step leads to a child of nothing, or stays where it is.
  unfold stepFrom at leads
  rw [if_neg onward] at leads
  split at leads
  · split at leads
    · cases leads
    · obtain rfl := Except.ok.inj leads
      exact tree.child empty name
  · obtain rfl := Except.ok.inj leads
    exact empty

/-- Behind a missing folder nothing stands, for no step leads back. -/
theorem LeadsOn.entry?_next (tree : files.IsTree) {steps : List Name} {last : Name}
    {location : Location} (onward : files.LeadsOn origin (steps ++ [last]))
    (missing : (files.way origin steps).made ≠ [])
    (leads : (files.way origin steps).next last = .ok location) :
    files.entry? location = none := by
  induction steps using List.reverseRecOn generalizing last location with
  | nil => exact absurd rfl missing
  | append_singleton steps name ih =>
    have back : last ≠ ['.', '.'] := fun up =>
      onward _ [last] rfl missing (up ▸ List.mem_singleton_self last)
    rw [Way.next, way_concat] at leads
    obtain ⟨folder, goal, leads⟩ := bind_eq_ok_iff.mp leads
    obtain ⟨found, before, kept⟩ := bind_eq_ok_iff.mp goal
    obtain rfl := unlessFile_eq_ok kept
    refine tree.entry?_stepFrom ?_ back leads
    -- The folder is either the first that is missing, or it lies behind one that is.
    by_cases none : (files.way origin steps).made = []
    · -- The folder is the first that is missing.
      obtain ⟨location, member⟩ := List.exists_mem_of_ne_nil _ missing
      rw [way_concat, mem_made_step, none] at member
      obtain ⟨here, empty⟩ := member.resolve_left List.not_mem_nil
      rw [before] at here
      obtain rfl := Except.ok.inj here
      exact empty
    · exact ih onward.of_append none before

/-- A walk that leads somewhere leads where its steps alone do. -/
theorem goal_eq_ok {steps : List Name} (each : ∀ name ∈ steps, isStep name = true)
    {location : Location} (goal : (files.way origin steps).goal = .ok location) :
    steps.foldl Location.step origin = location := by
  -- The last step is the one that may fail, so the steps are taken from the end.
  induction steps using List.reverseRecOn generalizing location with
  | nil => exact Except.ok.inj goal
  | append_singleton steps last ih =>
    rw [way_concat] at goal
    obtain ⟨next, leads, kept⟩ := bind_eq_ok_iff.mp goal
    obtain ⟨before, front, leads⟩ := bind_eq_ok_iff.mp leads
    obtain rfl := unlessFile_eq_ok kept
    rw [List.foldl_append, ih (fun name member => each name (List.mem_append_left _ member)) front]
    exact step_of_stepFrom (each last (by simp)) leads

/-- The folders that a walk makes lie on the way to where its steps lead. -/
theorem LeadsOn.prefix_place {steps : List Name} (onward : files.LeadsOn origin steps)
    (each : ∀ name ∈ steps, isStep name = true) {location : Location}
    (member : location ∈ (files.way origin steps).made) :
    location <+: steps.foldl Location.step origin := by
  induction steps using List.reverseRecOn with
  | nil => cases member
  | append_singleton steps last ih =>
    have front : ∀ name ∈ steps, isStep name = true :=
      fun name member => each name (List.mem_append_left _ member)
    rw [way_concat, mem_made_step] at member
    rw [List.foldl_append]
    -- A folder before the last step stays above it, for that does not lead back.
    rcases member with before | ⟨leads, -⟩
    · have back : last ≠ ['.', '.'] := fun up =>
        onward steps [last] rfl (List.ne_nil_of_mem before) (up ▸ List.mem_singleton_self last)
      refine (ih onward.of_append front before).trans ?_
      show _ <+: Location.step _ last
      rw [Location.step, if_neg back]
      exact List.prefix_append _ _
    · -- The last step makes the folder that it leads to.
      obtain ⟨folder, goal, leads⟩ := bind_eq_ok_iff.mp leads
      rw [goal_eq_ok front goal]
      show location <+: folder.step last
      exact ⟨[], by rw [List.append_nil, step_of_stepFrom (each last (by simp)) leads]⟩

/-- When the folders before the last step cannot all be made, the walk leads nowhere. -/
theorem LeadsOn.goal_of_makes (tree : files.IsTree) {steps : List Name} {last : Name}
    {fault : FileFault} (onward : files.LeadsOn origin (steps ++ [last]))
    (missing : (files.way origin (steps ++ [last])).made ≠ [])
    (failed : (files.way origin steps).makes files last = .error fault) :
    (files.way origin (steps ++ [last])).goal = .error fault := by
  rw [way_concat]
  show ((files.way origin steps).next last).bind files.unlessFile = _
  unfold Way.makes at failed
  -- A last step that leads nowhere fails for its own reason, and any other meets nothing there.
  cases leads : (files.way origin steps).next last with
  | error found =>
    rw [leads] at failed
    obtain rfl := Except.error.inj failed
    rfl
  | ok location =>
    -- No file is in the way behind a missing folder.
    have empty : files.entry? location = none := by
      obtain ⟨folder, member⟩ := List.exists_mem_of_ne_nil _ missing
      rw [way_concat, mem_made_step] at member
      rcases member with before | ⟨here, empty⟩
      · exact onward.entry?_next tree (List.ne_nil_of_mem before) leads
      · rw [leads] at here
        obtain rfl := Except.ok.inj here
        exact empty
    rw [leads] at failed
    dsimp only [Except.bind] at failed
    rw [empty] at failed
    cases failed

/-- All folders on a walk can be made exactly when it leads somewhere. -/
theorem goal_of_makes_ok {way : Way} {last : Name} :
    way.makes files last = .ok () ↔ ∃ location, (way.step files last).goal = .ok location := by
  show (way.next last).bind _ = _ ↔ ∃ location, (way.next last).bind files.unlessFile = .ok location
  -- Nothing but a file in the way keeps the last folder from being there or from being made.
  cases way.next last with
  | error fault => exact ⟨nofun, nofun⟩
  | ok location =>
    dsimp only [Except.bind]
    unfold unlessFile
    cases files.entry? location with
    | none => exact ⟨fun _ => ⟨location, rfl⟩, fun _ => rfl⟩
    | some entry =>
      cases entry with
      | file content => exact ⟨nofun, nofun⟩
      | folder => exact ⟨fun _ => ⟨location, rfl⟩, fun _ => rfl⟩

/-- A step leads nowhere only if its name is too long. -/
theorem stepFrom_ne_missing (location : Location) (name : Name) :
    stepFrom location name ≠ .error .missing := by
  unfold stepFrom
  repeat' split
  all_goals nofun

/-- A walk on which missing folders are made does not end for a missing one. -/
theorem goal_ne_missing (steps : List Name) : (files.way origin steps).goal ≠ .error .missing := by
  induction steps using List.reverseRecOn with
  | nil => nofun
  | append_singleton steps last ih =>
    rw [way_concat]
    -- No step gives this fault, and nor does a file in the way.
    refine bind_ne_error (bind_ne_error ih fun location => stepFrom_ne_missing location last) ?_
    intro location
    unfold unlessFile
    split <;> nofun

/-- Where a file is in the way no folder is made. -/
theorem makes_of_file {way : Way} {last : Name} {location : Location} {content : Bytes}
    (leads : way.next last = .ok location) (stood : files.entry? location = some (.file content)) :
    way.makes files last = .error .present := by
  rw [Way.makes, leads]
  dsimp only [Except.bind]
  rw [stood]

/-- Where nothing is in the way a folder is made. -/
theorem makes_of_empty {way : Way} {last : Name} {location : Location}
    (leads : way.next last = .ok location) (stood : files.entry? location = none) :
    way.makes files last = .ok () := by
  rw [Way.makes, leads]
  dsimp only [Except.bind]
  rw [stood]

/-- A path starts in a folder. -/
theorem IsTree.start (tree : files.IsTree) (path : Path) :
    files.entry? (files.start path).1 = some .folder := by
  unfold Files.start
  dsimp only
  split
  · rfl
  · exact tree.current

/-- The files with a new folder in a folder. -/
def makeIn (files : Files) (folder : Location) (name : Name) : Except FileFault Files :=
  if name = ['.', '.'] then .error .present
  else if isOverlong name then .error .tooLong
  else
    match files.entry? (folder ++ [name]) with
    | some _ => .error .present
    | none => .ok (files.put (folder ++ [name]) .folder)

/-- A folder is made in the folder that the names before its own lead to. -/
theorem makeFolder_eq {path : Path} {before : List Name} {last : Name}
    (sound : path.fault? = none) (pieces : piecesAt '/' path.chars = before ++ [last])
    (step : isStep last = true) :
    files.makeFolder path =
      (files.enter (files.start path).1 (before.filter isStep)).bind fun folder =>
        files.makeIn folder last := by
  -- A name that is a step is not empty, so that it is the last one of the path.
  have inner : last ≠ [] := fun empty => by
    rw [empty] at step
    cases step
  unfold makeFolder makeIn
  rw [target_eq sound, splitLast_of_pieces pieces inner, enter_steps, isEntryName_eq, step,
    Bool.true_and]
  -- A step back names no entry, and is answered by the folder that is there.
  by_cases up : last = ['.', '.']
  · simp only [up, ne_eq, not_true_eq_false, decide_false, if_true]
    cases files.enter (files.start path).1 before <;> rfl
  · simp only [up, ne_eq, not_false_eq_true, decide_true, if_false]
    cases files.enter (files.start path).1 before with
    | error fault => rfl
    | ok folder =>
      show (files.occupant (folder ++ [last])).bind _ = _
      unfold occupant
      rw [List.getLast?_concat, Option.any_some]
      split <;> rfl

namespace Grows

variable {path : Path} {before : List Name} {last : Name}

/-- The steps of a path that ends in a step. -/
theorem steps_of_pieces (pieces : piecesAt '/' path.chars = before ++ [last])
    (step : isStep last = true) : path.steps = before.filter isStep ++ [last] := by
  rw [Path.steps, pieces, List.filter_append, List.filter_cons_of_pos step, List.filter_nil]

/-- A folder is found behind the folder that the names before its own lead to. -/
theorem kind_of_enter {location next : Location} (sound : path.fault? = none)
    (pieces : piecesAt '/' path.chars = before ++ [last]) (step : isStep last = true)
    (entered : files.enter (files.start path).1 (before.filter isStep) = .ok location)
    (leads : stepFrom location last = .ok next) (stands : files.entry? next = some .folder) :
    files.kind path = .ok .folder := by
  refine (kind_eq_folder_iff sound).mpr ⟨next, ?_⟩
  -- The last name is a step, so that the walk ends with it.
  rw [steps_of_pieces pieces step]
  exact enter_concat entered leads stands

/-- A folder of a name that leads on is made where nothing stands, unless something does by now. -/
theorem makeIn (grown : Grows plan files later) (planned : files.IsPlan targets plan)
    (tree : files.IsTree) {location : Location} (around : later.entry? location = some .folder)
    (onward : last ≠ ['.', '.']) (short : ¬ isOverlong last = true)
    (chosen : files.entry? (location ++ [last]) = none → plan (location ++ [last]) = some .folder) :
    (∃ result, later.makeIn location last = .ok result ∧ Grows plan later result ∧
        files.entry? (location ++ [last]) = none ∧
        result.entry? (location ++ [last]) = some .folder) ∨
      later.makeIn location last = .error .present ∧
        (later.entry? (location ++ [last]) = some .folder ∨
          ∃ content, files.entry? (location ++ [last]) = some (.file content)) := by
  unfold Files.makeIn
  rw [if_neg onward, if_neg short]
  -- What stands there by now stood there before, or was made by someone else.
  cases stands : later.entry? (location ++ [last]) with
  | some entry =>
    refine .inr ⟨rfl, ?_⟩
    cases entry with
    | folder => exact .inl rfl
    | file content => exact .inr (grown.file_stood planned stands chosen)
  | none =>
    -- What is still free was free before, and the plan says what comes there.
    have stood := grown.empty planned stands
    have inner : location ++ [last] ≠ [] := by simp
    refine .inl ⟨_, rfl, .put (grown.tree tree) inner (chosen stood) ?_ (by simp [stands]), stood,
      ?_⟩
    · rw [List.dropLast_concat, around]
    · rw [entry?_put inner, if_pos rfl]

/-- What one attempt at making a folder does, when the folders before it are there by then. -/
theorem makeFolder (grown : Grows plan files later) (planned : files.IsPlan targets plan)
    (tree : files.IsTree) (sound : path.fault? = none)
    (pieces : piecesAt '/' path.chars = before ++ [last]) (step : isStep last = true)
    (chosen : ∀ location ∈ (files.way (files.start path).1 path.steps).made,
      plan location = some .folder)
    (made : Made later files (files.start path).1 (before.filter isStep)) :
    (∃ result, later.makeFolder path = .ok result ∧ Grows plan later result ∧
        (files.way (files.start path).1 (before.filter isStep)).makes files last = .ok () ∧
        Made result files (files.start path).1 path.steps) ∨
      ∃ fault, later.makeFolder path = .error fault ∧ fault ≠ .missing ∧
        (later.kind path = .ok .folder ∨
          (files.way (files.start path).1 (before.filter isStep)).makes files last =
            .error fault) := by
  have steps := steps_of_pieces pieces step
  rw [steps, way_concat] at chosen
  -- What the walk needs was made already, for it is among what is to be made.
  have entered : later.enter (files.start path).1 (before.filter isStep) =
      (files.way (files.start path).1 (before.filter isStep)).goal := by
    rcases grown.enter_eq planned (tree.start path) fun location member =>
      chosen location (mem_made_step.mpr (.inl member)) with ⟨-, entered⟩ | ⟨missing, -⟩
    · exact entered
    · exact absurd made missing
  -- With the folders before it there, the walk to the new one ends as planned.
  rw [makeFolder_eq sound pieces step, grown.start, steps, entered]
  cases goal : (files.way (files.start path).1 (before.filter isStep)).goal with
  | error fault =>
    refine .inr ⟨fault, rfl, fun same => goal_ne_missing _ (same ▸ goal), .inr ?_⟩
    rw [Way.makes, Way.next, goal]
    rfl
  | ok location =>
    rw [goal, ← grown.start] at entered
    have around := entry?_of_enter entered
    have leads : (files.way (files.start path).1 (before.filter isStep)).next last =
        stepFrom location last := by
      rw [Way.next, goal]
      rfl
    show (∃ result, later.makeIn location last = _ ∧ _) ∨
      ∃ fault, later.makeIn location last = _ ∧ _
    by_cases up : last = ['.', '.']
    · -- The folder around a folder is there.
      have next : stepFrom location last = .ok location.dropLast := by
        rw [stepFrom, if_pos step, if_pos up]
      exact .inr ⟨_, if_pos up, by decide, .inl (kind_of_enter sound pieces step entered next
        ((grown.tree tree).parent around))⟩
    by_cases long : isOverlong last = true
    · have next : stepFrom location last = .error .tooLong := by
        rw [stepFrom, if_pos step, if_neg up, if_pos long]
      rw [Files.makeIn, if_neg up, if_pos long, Way.makes, leads, next]
      exact .inr ⟨_, rfl, by decide, .inr rfl⟩
    have next : stepFrom location last = .ok (location ++ [last]) := by
      rw [stepFrom, if_pos step, if_neg up, if_neg long]
    rw [next] at leads
    -- The name is free and the folder is made, or something stands there.
    rcases grown.makeIn planned tree around up long fun empty =>
        chosen _ (mem_made_step.mpr (.inr ⟨leads, empty⟩)) with
      ⟨result, answer, grows, empty, stands⟩ | ⟨answer, there | ⟨content, stood⟩⟩
    · refine .inl ⟨result, answer, grows, makes_of_empty leads empty, made_concat_iff.mpr ⟨?_, ?_⟩⟩
      · exact made.mono (fun location member =>
          chosen location (mem_made_step.mpr (.inl member))) grows
      · intro other here _
        rw [leads] at here
        obtain rfl := Except.ok.inj here
        exact stands
    · exact .inr ⟨_, answer, by decide, .inl (kind_of_enter sound pieces step entered next there)⟩
    · -- A file in the place of the folder stood there from the first.
      exact .inr ⟨_, answer, by decide, .inr (makes_of_file leads stood)⟩

/-- A folder that is there was made, with all folders around it. -/
theorem makes_of_kind (grown : Grows plan files later) (planned : files.IsPlan targets plan)
    (tree : files.IsTree) (sound : path.fault? = none)
    (pieces : piecesAt '/' path.chars = before ++ [last]) (step : isStep last = true)
    (chosen : ∀ location ∈ (files.way (files.start path).1 path.steps).made,
      plan location = some .folder)
    (found : later.kind path = .ok .folder) :
    (files.way (files.start path).1 (before.filter isStep)).makes files last = .ok () ∧
      Made later files (files.start path).1 path.steps := by
  have steps := steps_of_pieces pieces step
  -- The folder was found along the steps, so they were walked to their end.
  obtain ⟨location, entered⟩ := (kind_eq_folder_iff sound).mp found
  rw [grown.start] at entered
  rcases grown.enter_eq planned (tree.start path) chosen with ⟨made, goal⟩ | ⟨-, missing⟩
  · -- Where all was made, the walk ends where the plan says.
    refine ⟨goal_of_makes_ok.mpr ⟨location, ?_⟩, made⟩
    rw [← way_concat, ← steps, ← goal, entered]
  · rw [missing] at entered
    cases entered

/-- A folder that is there because it was made stays there. -/
theorem kind_folder_mono {left : Files} (grown : Grows plan files later)
    (further : Grows plan later left) (planned : files.IsPlan targets plan) (tree : files.IsTree)
    (sound : path.fault? = none)
    (chosen : ∀ location ∈ (files.way (files.start path).1 path.steps).made,
      plan location = some .folder)
    (found : later.kind path = .ok .folder) : left.kind path = .ok .folder := by
  obtain ⟨location, entered⟩ := (kind_eq_folder_iff sound).mp found
  rw [grown.start] at entered
  -- Both walks start in the same folder, for growing moves no one.
  refine (kind_eq_folder_iff sound).mpr ⟨location, ?_⟩
  rw [(grown.trans further).start]
  -- All folders on the walk were there, and none of them is gone.
  rcases grown.enter_eq planned (tree.start path) chosen with ⟨made, goal⟩ | ⟨-, missing⟩
  · rcases (grown.trans further).enter_eq planned (tree.start path) chosen with
      ⟨-, again⟩ | ⟨missing, -⟩
    · rw [again, ← goal, entered]
    · exact absurd (made.mono chosen further) missing
  · rw [missing] at entered
    cases entered

end Grows

end Files

end Manuscript
