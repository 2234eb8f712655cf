import Manuscript.Files.Tasks
import Manuscript.Proofs.Files.Making
import Manuscript.Proofs.Task.Steady

/-!
Making folders and writing files while others do the same elsewhere: what comes of it is told by the
files before anyone began.
-/

namespace Manuscript

namespace Files

/-- The path of a folder that a plan provides for, on files where nothing was made yet. -/
structure IsDue (files : Files) (plan : Plan) (path : Path) : Prop where
  /-- Nothing idle stands at its end, unless all of it is idle. -/
  trim : path.IsTrim ∨ path.steps = []
  /-- Behind the first folder that is missing no step leads back. -/
  onward : files.LeadsOn (files.start path).1 path.steps
  /-- The folders that are missing are planned. -/
  chosen : path.fault? = none → ∀ location ∈ (files.way (files.start path).1 path.steps).made,
    plan location = some .folder

variable {files later : Files} {plan : Plan} {targets : Location → Prop} {path : Path}

/-- A path ends in its last step, when it has any. -/
theorem IsDue.pieces (due : files.IsDue plan path) (some : path.steps ≠ []) :
    ∃ before last, piecesAt '/' path.chars = before ++ [last] ∧ isStep last = true ∧
      path.lastCut.2 = last ∧ before.filter isStep = Path.steps ⟨path.lastCut.1⟩ := by
  -- A path with steps is due only when nothing idle stands at its end.
  have trim := due.trim.resolve_right some
  obtain ⟨before, idle, pieces, front, -, none⟩ := path.pieces_lastCut
  rw [none trim] at pieces
  exact ⟨before, _, pieces, Path.isStep_lastCut trim some, rfl, front⟩

/-- The folder around a path starts where the path does. -/
theorem start_of_around (files : Files) {parent : Path} (around : parent.IsAround path)
    (some : parent.chars ≠ []) : (files.start parent).1 = (files.start path).1 := by
  simp only [Files.start, around.absolute some]

/-- A plan provides for the folder around one that it provides for. -/
theorem IsDue.around {parent : Path} (due : files.IsDue plan path) (sound : path.fault? = none)
    (around : parent.IsAround path) (some : parent.chars ≠ []) : files.IsDue plan parent := by
  have start := start_of_around files around some
  obtain ⟨trim, onward, chosen⟩ := due
  rw [Path.steps_eq, ← around.steps, ← start] at onward chosen
  refine ⟨around.trim, onward.of_append, fun _ location member => chosen sound location ?_⟩
  -- The walk to the folder around is that to the folder, without its last step if it has one.
  cases step : isStep path.lastCut.2 with
  | true =>
    rw [List.filter_cons_of_pos step, List.filter_nil, way_concat, mem_made_step]
    exact .inl member
  | false =>
    rw [List.filter_cons_of_neg (by simp [step]), List.filter_nil, List.append_nil]
    exact member

/-- A plan provides for the folders before the last one. -/
theorem IsDue.before {before : List Name} {last : Name} (due : files.IsDue plan path)
    (sound : path.fault? = none) (steps : path.steps = before ++ [last]) {location : Location}
    (member : location ∈ (files.way (files.start path).1 before).made) :
    plan location = some .folder := by
  refine due.chosen sound location ?_
  -- What is made on the way is made for the whole path, too.
  rw [steps, way_concat, mem_made_step]
  exact .inl member

/-- What comes of making a folder at a path that ends in a step. -/
theorem makesFolders_eq (files : Files) {before : List Name} {last : Name}
    (sound : path.fault? = none) (steps : path.steps = before ++ [last]) :
    files.makesFolders path = (files.way (files.start path).1 before).makes files last := by
  -- An empty path has no steps, though this one has a last.
  have some : path.chars ≠ [] := by
    intro none
    rw [Path.steps, none] at steps
    exact absurd (congrArg List.length steps) (by simp [piecesAt, isStep])
  rw [makesFolders, if_neg some, sound, steps, List.getLast?_concat, List.dropLast_concat]

/-- What comes of making folders: the files have grown, and those of a sound path are there. -/
def HasMade (plan : Plan) (files : Files) (path : Path) (result : Except FileFault Unit)
    (left : Files) : Prop :=
  Grows plan files left ∧ result = files.makesFolders path ∧
    (path.fault? = none → Made left files (files.start path).1 path.steps)

end Files

namespace Task

open Files

variable {σ : Type} {programs : Programs σ} {files later : Files} {plan : Plan}
  {targets : Location → Prop} {path : Path}

/-- A folder that is there already is as good as a new one. -/
def orPresent (path : Path) (fault : FileFault) : Task (Except FileFault Unit) := do
  if ← isFolder path then return .ok () else return .error fault

/-- Asking for a folder after a failure is steady if either answer is right by then. -/
theorem orPresent_steady {fault : FileFault} {post : Except FileFault Unit → Files → Prop}
    (present : ∀ left, Grows plan later left → left.kind path = .ok .folder → post (.ok ()) left)
    (absent : ∀ left, Grows plan later left → left.kind path ≠ .ok .folder →
      post (.error fault) left) :
    (orPresent path fault).Steady programs (Grows plan) (fun _ => Grows plan) post later := by
  -- The question is put to whatever the files have grown to by then.
  refine .find (fun _ => .refl) fun left grown => ?_
  show Steady programs (Grows plan) (fun _ => Grows plan) post
    (if decide ((left.kind path).toOption = some .folder) = true then .done (.ok ())
      else .done (.error fault)) left
  cases found : left.kind path with
  | error other => exact .done (absent left grown (by simp [found]))
  | ok kind =>
    cases kind with
    | file => exact .done (absent left grown (by simp [found]))
    | folder => exact .done (present left grown found)

section Attempt

variable {before : List Name} {last : Name} (planned : files.IsPlan targets plan)
  (tree : files.IsTree) (due : files.IsDue plan path) (grown : Grows plan files later)
  (sound : path.fault? = none) (pieces : piecesAt '/' path.chars = before ++ [last])
  (step : isStep last = true)

include planned tree due grown sound pieces step

/-- A folder that can be made when those around it are there is the last that is made. -/
theorem hasMade_of_ok (made : Made later files (files.start path).1 (before.filter isStep))
    {result : Files} (answer : later.makeFolder path = .ok result) :
    Grows plan later result ∧ HasMade plan files path (.ok ()) result := by
  have verdict := makesFolders_eq files sound (Grows.steps_of_pieces pieces step)
  -- What the answer says was known from the files before anything was made.
  rcases grown.makeFolder planned tree sound pieces step (due.chosen sound) made with
    ⟨found, same, grows, makes, there⟩ | ⟨_, found, -⟩
  · obtain rfl := Except.ok.inj (answer.symm.trans same)
    exact ⟨grows, grown.trans grows, by rw [verdict, makes], fun _ => there⟩
  · rw [answer] at found
    cases found

/--
When a folder cannot be made though those around it are there, none of these is missing, and asking
whether it is there by then tells what comes of it.
-/
theorem orPresent_of_error (made : Made later files (files.start path).1 (before.filter isStep))
    {fault : FileFault} (answer : later.makeFolder path = .error fault) :
    fault ≠ .missing ∧
      (orPresent path fault).Steady programs (Grows plan) (fun _ => Grows plan)
        (HasMade plan files path) later := by
  have steps := Grows.steps_of_pieces pieces step
  have verdict := makesFolders_eq files sound steps
  rcases grown.makeFolder planned tree sound pieces step (due.chosen sound) made with
    ⟨_, found, -⟩ | ⟨other, found, fault_ne, reason⟩
  · rw [answer] at found
    cases found
  obtain rfl := Except.error.inj (answer.symm.trans found)
  -- The folder may have been made by someone else since the attempt failed.
  refine ⟨fault_ne, orPresent_steady (fun left more present => ?_) fun left more absent => ?_⟩
  · obtain ⟨makes, there⟩ :=
      (grown.trans more).makes_of_kind planned tree sound pieces step (due.chosen sound) present
    exact ⟨grown.trans more, by rw [verdict, makes], fun _ => there⟩
  · have makes := reason.resolve_left fun present => absent
      (grown.kind_folder_mono more planned tree sound (due.chosen sound) present)
    refine ⟨grown.trans more, by rw [verdict, makes], fun _ location member => ?_⟩
    rw [steps, way_concat, mem_made_step] at member
    rcases member with before | ⟨leads, empty⟩
    · exact more.planned (due.before sound steps before) (made location before)
    · -- Nothing was in the way of it, so that it would have been made.
      rw [makes_of_empty leads empty] at makes
      cases makes

/-- As long as a folder around it is missing, a folder cannot be made for that. -/
theorem unmade (missing : ¬ Made later files (files.start path).1 (before.filter isStep)) :
    later.makeFolder path = .error .missing := by
  have steps := Grows.steps_of_pieces pieces step
  -- The path before the last step is entered only once all its folders are made.
  rcases grown.enter_eq planned (tree.start path) (fun _ => due.before sound steps) with
    ⟨made, -⟩ | ⟨-, entered⟩
  · exact absurd made missing
  · rw [makeFolder_eq sound pieces step, grown.start, entered]
    rfl

end Attempt

/-- A folder is tried again when those around it were made. -/
def tryAgain (path : Path) : Except FileFault Unit → Task (Except FileFault Unit)
  | .error fault => return .error fault
  | .ok () =>
    .makeFolder path fun again =>
      match again with
      | .ok () => .done (.ok ())
      | .error fault => orPresent path fault

section Again

variable {before : List Name} {last : Name} {parent : Path} (around : parent.IsAround path)
  (front : before.filter isStep = Path.steps ⟨path.lastCut.1⟩)
  (missing : (files.way (files.start path).1 (before.filter isStep)).made ≠ [])

include around front missing

/-- The folder around a path with folders before its last one has a name. -/
theorem spelled_of_made : parent.chars ≠ [] := by
  intro none
  rw [front, ← around.steps, Path.steps, none] at missing
  exact missing rfl

/-- When the folders around a path cannot be made, that is where its walk ends. -/
theorem goal_of_makesFolders (tree : files.IsTree) (due : files.IsDue plan path)
    (sound : path.fault? = none) (steps : path.steps = before.filter isStep ++ [last])
    {fault : FileFault} (verdict : .error fault = files.makesFolders parent) :
    (files.way (files.start path).1 (before.filter isStep)).goal = .error fault := by
  have spelled := spelled_of_made around front missing
  have parentSteps : parent.steps = before.filter isStep := around.steps.trans front.symm
  have parentSound := Path.fault?_of_prefix sound around.start spelled
  -- There is a step before the last one, for a folder is missing on the way.
  rcases List.eq_nil_or_concat (before.filter isStep) with none | ⟨ahead, name, cut⟩
  · rw [none] at missing
    exact absurd rfl missing
  · have onward := due.onward
    rw [List.concat_eq_append] at cut
    rw [makesFolders_eq files parentSound (parentSteps.trans cut),
      start_of_around files around spelled] at verdict
    rw [steps, cut] at onward
    rw [cut] at missing ⊢
    -- The fault is that of the walk, since the last folder itself could be made.
    exact onward.of_append.goal_of_makes tree missing verdict.symm

/-- Trying again is steady once the folders around were made, or could not be. -/
theorem tryAgain_steady (planned : files.IsPlan targets plan) (tree : files.IsTree)
    (due : files.IsDue plan path) (sound : path.fault? = none)
    (pieces : piecesAt '/' path.chars = before ++ [last]) (step : isStep last = true)
    {task : Task (Except FileFault Unit)}
    (first : task.Steady programs (Grows plan) (fun _ => Grows plan) (HasMade plan files parent)
      later) :
    (task >>= tryAgain path).Steady programs (Grows plan) (fun _ => Grows plan)
      (HasMade plan files path) later := by
  have spelled := spelled_of_made around front missing
  have steps := Grows.steps_of_pieces pieces step
  refine first.bind fun answer left done => ?_
  obtain ⟨grown, verdict, made⟩ := done
  -- Whatever came of it, the folders around are there as far as they can be made.
  have made : Made left files (files.start path).1 (before.filter isStep) := by
    rw [← start_of_around files around spelled, ← around.steps.trans front.symm]
    exact made (Path.fault?_of_prefix sound around.start spelled)
  cases answer with
  | ok =>
    refine .makeFolder (fun _ => .refl) (fun last result further answer => ?_)
      fun last fault further answer => ?_
    all_goals
      -- What others do meanwhile takes none of the folders away.
      have there : Made last files (files.start path).1 (before.filter isStep) :=
        made.mono (fun _ => due.before sound steps) further
    · obtain ⟨grows, there⟩ := hasMade_of_ok planned tree due (grown.trans further) sound pieces
        step there answer
      exact ⟨fun _ _ => grows, .done there⟩
    · exact (orPresent_of_error planned tree due (grown.trans further) sound pieces step there
        answer).2
  | error fault =>
    -- What ends the walk before the last step is what ends it.
    have next : (files.way (files.start path).1 (before.filter isStep)).next last =
        .error fault := by
      rw [Way.next, goal_of_makesFolders around front missing tree due sound steps verdict]
      rfl
    refine .done ⟨grown, ?_, fun _ location member => ?_⟩
    · rw [makesFolders_eq files sound steps, Way.makes, next]
      rfl
    · rw [steps, way_concat, mem_made_step, next] at member
      exact made location (member.resolve_right fun new => by cases new.1)

end Again

section Refused

variable {bound : Nat} (spelled : path.chars ≠ []) (grown : Grows plan files later)

include spelled

/-- A folder that is refused for another reason than a missing one is asked for just once. -/
theorem makeFoldersWithin_of_refused {fault : FileFault} (other : fault ≠ .missing)
    (refused : ∀ left, Grows plan later left → left.makeFolder path = .error fault)
    (asked : ∀ left, Grows plan later left →
      (orPresent path fault).Steady programs (Grows plan) (fun _ => Grows plan)
        (HasMade plan files path) left) :
    (makeFoldersWithin (bound + 1) path).Steady programs (Grows plan) (fun _ => Grows plan)
      (HasMade plan files path) later := by
  unfold makeFoldersWithin
  rw [if_neg spelled]
  -- The answer is the same whenever it comes, and only a missing folder is asked for again.
  refine .makeFolder (fun _ => .refl) (fun left result further answer => ?_)
    fun left found further answer => ?_ <;> rw [refused left further] at answer
  · cases answer
  · obtain rfl := Except.error.inj answer
    cases fault with
    -- Any other fault may mean that the folder is there.
    | missing => exact absurd rfl other
    | _ => exact asked left further

include grown

/-- No folder is made at a path with a fault in its spelling. -/
theorem makeFoldersWithin_of_fault {fault : FileFault} (unsound : path.fault? = some fault) :
    (makeFoldersWithin (bound + 1) path).Steady programs (Grows plan) (fun _ => Grows plan)
      (HasMade plan files path) later := by
  -- A path with a fault is refused for that fault, and nothing is ever found there.
  have other : fault ≠ .missing := by
    rintro rfl
    exact Path.fault?_ne_missing spelled unsound
  refine makeFoldersWithin_of_refused spelled other (fun _ _ => makeFolder_of_fault unsound)
    fun left further => orPresent_steady (fun last more present => ?_) fun last more _ => ?_
  · rw [kind_of_fault unsound] at present
    cases present
  · exact ⟨(grown.trans further).trans more, by rw [makesFolders, if_neg spelled, unsound],
      fun sound => by rw [unsound] at sound; cases sound⟩

/-- A path without steps leads to the folder that it starts from, where none is made. -/
theorem makeFoldersWithin_of_idle (tree : files.IsTree) (sound : path.fault? = none)
    (idle : path.steps = []) :
    (makeFoldersWithin (bound + 1) path).Steady programs (Grows plan) (fun _ => Grows plan)
      (HasMade plan files path) later := by
  -- Such a path leads to where the walk starts, which is a folder.
  have found : ∀ left, Grows plan later left → left.kind path = .ok .folder := by
    intro left further
    refine (kind_eq_folder_iff sound).mpr ⟨(left.start path).1, ?_⟩
    rw [idle, enter_nil, folderAt, ((grown.trans further).tree tree).start path]
  -- A path without steps names no entry, so that the answer is that something is there.
  have refused : ∀ left, Grows plan later left → left.makeFolder path = .error .present := by
    intro left further
    obtain ⟨location, entered⟩ := (kind_eq_folder_iff sound).mp (found left further)
    obtain ⟨slashed, target⟩ := target_of_unnamed sound (Path.fileName?_of_steps_nil idle) entered
    rw [Files.makeFolder, target]
    rfl
  refine makeFoldersWithin_of_refused spelled (by decide) refused fun left further =>
    orPresent_steady (fun last more _ => ?_) fun last more absent => ?_
  · refine ⟨(grown.trans further).trans more, ?_, fun _ => ?_⟩
    · rw [makesFolders, if_neg spelled, sound, idle]
      rfl
    · rw [idle]
      exact fun _ member => absurd member List.not_mem_nil
  · exact absurd (found last (further.trans more)) absent

end Refused

/-- Making a folder and those around it is steady where a plan provides for them. -/
theorem makeFoldersWithin_steady (planned : files.IsPlan targets plan) (tree : files.IsTree)
    {bound : Nat} (due : files.IsDue plan path) (size : path.chars.length < bound)
    (grown : Grows plan files later) :
    (makeFoldersWithin bound path).Steady programs (Grows plan) (fun _ => Grows plan)
      (HasMade plan files path) later := by
  -- The bound is on the length of the path, which gets shorter with each folder around it.
  induction bound generalizing path later with
  | zero => exact absurd size (Nat.not_lt_zero _)
  | succ bound ih =>
    -- The empty path asks for nothing.
    by_cases spelled : path.chars = []
    · unfold makeFoldersWithin
      rw [if_pos spelled]
      refine .done ⟨grown, by rw [makesFolders, if_pos spelled], fun sound => ?_⟩
      rw [Path.fault?, spelled] at sound
      cases sound
    cases sound : path.fault? with
    | some fault => exact makeFoldersWithin_of_fault spelled grown sound
    | none =>
      by_cases idle : path.steps = []
      · exact makeFoldersWithin_of_idle spelled grown tree sound idle
      obtain ⟨before, last, pieces, step, component, front⟩ := due.pieces idle
      unfold makeFoldersWithin
      rw [if_neg spelled]
      refine .makeFolder (fun _ => .refl) (fun left result further answer => ?_)
        fun left fault further answer => ?_
      -- What is answered depends on whether the folders around it are there by then.
      all_goals
        have all := grown.trans further
        by_cases made : Made left files (files.start path).1 (before.filter isStep)
      · obtain ⟨grows, there⟩ := hasMade_of_ok planned tree due all sound pieces step made answer
        exact ⟨fun _ _ => grows, .done there⟩
      · rw [unmade planned tree due all sound pieces step made] at answer
        cases answer
      · obtain ⟨other, asked⟩ : fault ≠ .missing ∧ (orPresent path fault).Steady programs
            (Grows plan) (fun _ => Grows plan) (HasMade plan files path) left :=
          orPresent_of_error planned tree due all sound pieces step made answer
        cases fault with
        | missing => exact absurd rfl other
        | _ => exact asked
      · -- The folder around it is made first, which is a shorter path.
        rw [unmade planned tree due all sound pieces step made] at answer
        obtain rfl := Except.error.inj answer
        have named : path.lastCut.2 ≠ [] := by
          rw [component]
          rintro rfl
          cases step
        have found := Path.parent?_eq named
        have around := Path.isAround_of_parent? found
        dsimp only
        rw [found]
        have missing : (files.way (files.start path).1 (before.filter isStep)).made ≠ [] :=
          fun none => made fun location member => by rw [none] at member; cases member
        have parentDue := due.around sound around (spelled_of_made around front missing)
        have shorter := around.shorter
        exact tryAgain_steady around front missing planned tree due sound pieces step
          (ih parentDue (by omega) all)

end Task

end Manuscript
