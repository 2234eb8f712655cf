import Manuscript.Proofs.Files.Writing

/-!
Writing one file in folders that are made where needed, as a plan: which folders it makes, what it
puts where, and what comes of it, told by the files before it begins.
-/

namespace Manuscript

namespace Files

variable {files later : Files} {plan : Plan} {targets : Location → Prop} {path : Path}

/-- What comes of making the folder that a file is to stand in. -/
def room (files : Files) (path : Path) : Except ConvertError Unit :=
  match path.folder? with
  | none => .ok ()
  | some folder => (files.makesFolders folder).mapError fun fault => .io folder fault.message

/-- Where a file is written once there is room for it, or why it is not. -/
def writesAt (files : Files) (path : Path) : Except FileFault Location :=
  match path.fault? with
  | some fault => .error fault
  | none =>
    match path.fileName? with
    | none => .error .isFolder
    | some name =>
      ((files.way (files.start path).1 (Path.steps ⟨path.lastCut.1⟩)).next name).bind
        fun location =>
          if files.entry? location = some .folder then .error .isFolder else .ok location

/-- Where a file is written in folders that are made where needed, or why it is not. -/
def writes (files : Files) (path : Path) : Except ConvertError Location :=
  (files.room path).bind fun () =>
    (files.writesAt path).mapError fun fault => .io path fault.message

/-- The folders that are made for a file. -/
def madeFor (files : Files) (path : Path) : List Location :=
  match path.folder? with
  | none => []
  | some folder =>
    if folder.fault? = none then (files.way (files.start folder).1 folder.steps).made else []

/-- What writing a file puts where. -/
def errand (files : Files) (path : Path) (content : Bytes) : Plan := fun location =>
  if location ∈ files.madeFor path then some .folder
  else if (files.writes path).toOption = some location then some (.file content)
  else none

/-- What comes of making room for a file that stands in a folder. -/
theorem room_of_folder? {folder : Path} (found : path.folder? = some folder) :
    files.room path =
      (files.makesFolders folder).mapError fun fault => .io folder fault.message := by
  rw [room, found]

/-- The folders that are made for a file that stands in a folder. -/
theorem madeFor_of_folder? {folder : Path} (found : path.folder? = some folder) :
    files.madeFor path =
      if folder.fault? = none then (files.way (files.start folder).1 folder.steps).made
      else [] := by
  rw [madeFor, found]

/-- The folder that a file stands in has the steps before the name of the file. -/
theorem around_of_folder? {folder : Path} (found : path.folder? = some folder) :
    folder.IsAround path ∧ folder.chars ≠ [] := by
  obtain ⟨parent, named⟩ := Option.filter_eq_some_iff.mp found
  exact ⟨Path.isAround_of_parent? parent, of_decide_eq_true named⟩

/-- Where no folder is named for a file no step stands before its name. -/
theorem steps_of_folder?_none (none : path.folder? = none) : Path.steps ⟨path.lastCut.1⟩ = [] := by
  -- There is no folder to name where there is no parent, or where the parent is nowhere in
  -- particular.
  cases found : path.parent? with
  | none =>
    rw [Path.lastCut_of_empty (Path.parent?_eq_none_iff.mp found)]
    rfl
  | some parent =>
    have empty : parent.chars = [] := by
      rw [Path.folder?, found] at none
      simpa using Option.filter_eq_none_iff.mp none
    rw [← (Path.isAround_of_parent? found).steps, Path.steps, empty]
    rfl

/-- The folders made for a file at a sound path are those missing on the way to it. -/
theorem madeFor_eq (sound : path.fault? = none) :
    files.madeFor path = (files.way (files.start path).1 (Path.steps ⟨path.lastCut.1⟩)).made := by
  -- The folder around a file leads where the steps before its name lead.
  cases found : path.folder? with
  | none =>
    rw [madeFor, found, steps_of_folder?_none found]
    rfl
  | some folder =>
    obtain ⟨around, spelled⟩ := around_of_folder? found
    rw [madeFor_of_folder? found, if_pos (Path.fault?_of_prefix sound around.start spelled),
      around.steps, start_of_around files around spelled]

/-- Every folder made for a file is missing on the way to it. -/
theorem mem_way_of_madeFor {location : Location} (member : location ∈ files.madeFor path) :
    location ∈ (files.way (files.start path).1 (Path.steps ⟨path.lastCut.1⟩)).made := by
  -- Folders are made for a file only when they can be, and then all that are missing.
  cases found : path.folder? with
  | none =>
    rw [madeFor, found] at member
    cases member
  | some folder =>
    obtain ⟨around, spelled⟩ := around_of_folder? found
    rw [madeFor_of_folder? found] at member
    split at member
    · rwa [around.steps, start_of_around files around spelled] at member
    · cases member

/-- Once there is room for a file, the walk to it leads somewhere. -/
theorem goal_of_room (sound : path.fault? = none) (room : files.room path = .ok ()) :
    ∃ folder, (files.way (files.start path).1 (Path.steps ⟨path.lastCut.1⟩)).goal = .ok folder := by
  cases found : path.folder? with
  -- A path without a folder part is looked up right where the walk starts.
  | none =>
    rw [steps_of_folder?_none found]
    exact ⟨_, rfl⟩
  | some folder =>
    obtain ⟨around, spelled⟩ := around_of_folder? found
    have sound := Path.fault?_of_prefix sound around.start spelled
    rw [← around.steps, ← start_of_around files around spelled]
    -- Without steps the walk stays where it starts; otherwise its last folder can be made.
    rcases List.eq_nil_or_concat folder.steps with none | ⟨before, last, cut⟩
    · rw [none]
      exact ⟨_, rfl⟩
    · rw [List.concat_eq_append] at cut
      rw [room_of_folder? found, makesFolders_eq files sound cut] at room
      rw [cut, way_concat]
      refine goal_of_makes_ok.mp ?_
      -- There is room, so that the last folder can be made.
      cases makes : (files.way (files.start folder).1 before).makes files last with
      | ok => rfl
      | error fault =>
        rw [makes] at room
        cases room

/-- The steps before the last component of a path are steps. -/
theorem isStep_of_mem_front {name : Name} (member : name ∈ Path.steps ⟨path.lastCut.1⟩) :
    isStep name = true := (List.mem_filter.mp member).2

/-- Behind the first folder that is missing on the way to a file no step leads back. -/
theorem LeadsOn.front (onward : files.LeadsOn (files.start path).1 path.steps) :
    files.LeadsOn (files.start path).1 (Path.steps ⟨path.lastCut.1⟩) := by
  rw [Path.steps_eq] at onward
  exact onward.of_append

/-- A file is written where the steps of its path lead, and not in the place of a folder. -/
theorem eq_place_of_writesAt {location : Location} (written : files.writesAt path = .ok location) :
    files.place path = location ∧ files.entry? location ≠ some .folder := by
  -- The path has a name, and the folder before it was entered.
  unfold writesAt at written
  split at written
  · cases written
  split at written
  · cases written
  case h_2 sound _ name named =>
    obtain ⟨component, entry⟩ := Path.lastCut_of_fileName? named
    rw [isEntryName_eq, Bool.and_eq_true] at entry
    obtain ⟨next, leads, free⟩ := bind_eq_ok_iff.mp written
    split at free
    · cases free
    case isFalse other =>
      obtain rfl := Except.ok.inj free
      -- The name is the last step of the walk, behind the folder it is put into.
      obtain ⟨folder, goal, leads⟩ := bind_eq_ok_iff.mp leads
      refine ⟨?_, other⟩
      rw [place, Path.steps_eq, component, List.filter_cons_of_pos entry.1, List.filter_nil,
        List.foldl_append, goal_eq_ok (fun _ => isStep_of_mem_front) goal]
      exact step_of_stepFrom entry.1 leads

/-- A file that is written stands where a file may. -/
theorem writesAt_of_writes {location : Location} (written : files.writes path = .ok location) :
    files.room path = .ok () ∧ files.writesAt path = .ok location := by
  -- Room is made before the file is written.
  obtain ⟨⟨⟩, made, written⟩ := bind_eq_ok_iff.mp written
  refine ⟨made, ?_⟩
  cases answer : files.writesAt path with
  | error fault =>
    rw [answer] at written
    cases written
  | ok target =>
    rw [answer] at written
    exact congrArg Except.ok (Except.ok.inj written)

/-- The folders made for a file lie on the way to it. -/
theorem prefix_of_madeFor (onward : files.LeadsOn (files.start path).1 path.steps)
    {location : Location} (member : location ∈ files.madeFor path) :
    location <+: files.place path := by
  have missing := mem_way_of_madeFor member
  have above := onward.front.prefix_place (fun _ => isStep_of_mem_front) missing
  rw [Path.steps_eq] at onward
  rw [place, Path.steps_eq, List.foldl_append]
  refine above.trans ?_
  -- The last component leads on from where the folders lie, when it is a step at all.
  cases step : isStep path.lastCut.2 with
  | false =>
    rw [List.filter_cons_of_neg (by simp [step])]
    exact List.prefix_refl _
  | true =>
    rw [List.filter_cons_of_pos step] at onward ⊢
    -- A step back behind a folder that is made is what the path may not have.
    have back : path.lastCut.2 ≠ ['.', '.'] := fun up =>
      onward _ _ rfl (List.ne_nil_of_mem missing) (up ▸ List.mem_cons_self)
    show _ <+: Location.step _ _
    rw [Location.step, if_neg back]
    exact List.prefix_append _ _

/-- A file is not written in the place of a folder that is made for it. -/
theorem notMem_madeFor_of_writesAt (onward : files.LeadsOn (files.start path).1 path.steps)
    {location : Location} (written : files.writesAt path = .ok location) :
    location ∉ files.madeFor path := by
  intro member
  -- A folder made for the file is no deeper than the walk to it, and the file is one deeper.
  have above := (onward.front.prefix_place (fun _ => isStep_of_mem_front)
    (mem_way_of_madeFor member)).length_le
  rw [← (eq_place_of_writesAt written).1, place, Path.steps_eq, List.foldl_append] at above
  unfold writesAt at written
  split at written
  · cases written
  split at written
  · cases written
  case h_2 sound _ name named =>
    obtain ⟨component, entry⟩ := Path.lastCut_of_fileName? named
    rw [isEntryName_eq, Bool.and_eq_true, decide_eq_true_eq] at entry
    -- The file is one name further inside than its folder.
    rw [component, List.filter_cons_of_pos entry.1] at above
    rw [List.filter_nil, List.foldl_cons, List.foldl_nil, Location.step, if_neg entry.2,
      List.length_append, List.length_singleton] at above
    exact Nat.not_succ_le_self _ above

/-- What writing a file puts somewhere is a folder for it, or the file. -/
theorem errand_cases {content : Bytes} {location : Location} {entry : Entry}
    (chosen : files.errand path content location = some entry) :
    (entry = .folder ∧ location ∈ files.madeFor path) ∨
      (entry = .file content ∧ files.writes path = .ok location) := by
  -- A place for a folder is asked for first, and only then the place of the file.
  unfold errand at chosen
  split at chosen
  case isTrue member => exact .inl ⟨(Option.some.inj chosen).symm, member⟩
  case isFalse =>
    split at chosen
    case isTrue written =>
      refine .inr ⟨(Option.some.inj chosen).symm, ?_⟩
      -- A file is planned only where writing it would succeed.
      cases answer : files.writes path with
      | error error =>
        rw [answer] at written
        cases written
      | ok target =>
        rw [answer] at written
        exact congrArg Except.ok (Option.some.inj written)
    case isFalse => cases chosen

/-- The folders for a file are put where they are missing. -/
theorem errand_of_madeFor {content : Bytes} {location : Location}
    (member : location ∈ files.madeFor path) :
    files.errand path content location = some .folder := if_pos member

/-- The file is put where it is written. -/
theorem errand_of_writes (onward : files.LeadsOn (files.start path).1 path.steps) {content : Bytes}
    {location : Location} (room : files.room path = .ok ())
    (written : files.writesAt path = .ok location) :
    files.errand path content location = some (.file content) := by
  have writes : files.writes path = .ok location := by
    rw [Files.writes, room, written]
    rfl
  -- The file is not put where one of its folders is made, so the errand gets to it.
  rw [errand, if_neg (notMem_madeFor_of_writesAt onward written), writes]
  exact if_pos rfl

/-- Writing a file is a plan on the files before it. -/
theorem isPlan_errand (onward : files.LeadsOn (files.start path).1 path.steps) (content : Bytes) :
    files.IsPlan (· = files.place path) (files.errand path content) where
  within chosen := by
    -- What is planned is a folder on the way or the file itself, in each of the three fields.
    refine ⟨_, rfl, ?_⟩
    rcases errand_cases chosen with ⟨-, member⟩ | ⟨-, written⟩
    · exact prefix_of_madeFor onward member
    · have same := (eq_place_of_writesAt (writesAt_of_writes written).2).1
      exact ⟨[], by rw [List.append_nil, same]⟩
  -- A folder is planned where nothing stands.
  folder chosen := by
    rcases errand_cases chosen with ⟨-, member⟩ | ⟨same, -⟩
    · exact entry?_of_mem_made (mem_way_of_madeFor member)
    · cases same
  -- A file is planned where the path leads to, and not over a folder.
  file chosen := by
    rcases errand_cases chosen with ⟨same, -⟩ | ⟨-, written⟩
    · cases same
    · obtain ⟨place, other⟩ := eq_place_of_writesAt (writesAt_of_writes written).2
      exact ⟨place.symm, other⟩

/-- A file is written in the folder that the names before its own lead to. -/
theorem write_eq (files : Files) {before : List Name} {last : Name} (sound : path.fault? = none)
    (pieces : piecesAt '/' path.chars = before ++ [last]) (entry : isEntryName last = true)
    (content : Bytes) :
    files.write path content =
      (files.enter (files.start path).1 (before.filter isStep)).bind fun folder =>
        if isOverlong last then .error .tooLong
        else if files.entry? (folder ++ [last]) = some .folder then .error .isFolder
        else .ok (files.put (folder ++ [last]) (.file content)) := by
  have inner : last ≠ [] := fun empty => by
    rw [empty] at entry
    cases entry
  -- With the name of an entry last, the folder is what the names before it lead to.
  unfold write
  rw [target_eq sound, splitLast_of_pieces pieces inner, enter_steps, entry]
  cases files.enter (files.start path).1 before with
  | error fault => rfl
  | ok folder =>
    show (files.occupant (folder ++ [last])).bind _ = if isOverlong last then _ else _
    unfold occupant
    rw [List.getLast?_concat, Option.any_some]
    split
    · rfl
    · -- What stands there is a folder, or gives way to the new file.
      cases files.entry? (folder ++ [last]) with
      | none => rfl
      | some held => cases held <;> rfl

/-- No file is written at a path that leads to a folder. -/
theorem write_of_unnamed (tree : files.IsTree) (sound : path.fault? = none)
    (unnamed : path.fileName? = none) {folder : Location}
    (entered : files.enter (files.start path).1 (Path.steps ⟨path.lastCut.1⟩) = .ok folder)
    (content : Bytes) : files.write path content = .error .isFolder := by
  -- Without a name at its end the path leads to a folder.
  have found : ∃ location, files.enter (files.start path).1 path.steps = .ok location := by
    rw [Path.steps_eq]
    cases step : isStep path.lastCut.2 with
    | false =>
      rw [List.filter_cons_of_neg (by simp [step]), List.filter_nil, List.append_nil]
      exact ⟨folder, entered⟩
    | true =>
      -- A last step that names no entry leads back.
      have up : path.lastCut.2 = ['.', '.'] := by
        have other := Path.not_isEntryName_of_fileName? unnamed
        rw [isEntryName_eq, step, Bool.true_and] at other
        simpa using other
      rw [List.filter_cons_of_pos step, List.filter_nil, up]
      exact ⟨_, enter_concat entered rfl (tree.parent (entry?_of_enter entered))⟩
  obtain ⟨location, found⟩ := found
  obtain ⟨slashed, target⟩ := target_of_unnamed sound unnamed found
  rw [Files.write, target]
  rfl

/-- Where a file is written whose folder is led to. -/
theorem writesAt_eq {folder : Location} {name : Name} (sound : path.fault? = none)
    (named : path.fileName? = some name)
    (goal : (files.way (files.start path).1 (Path.steps ⟨path.lastCut.1⟩)).goal = .ok folder) :
    files.writesAt path =
      if isOverlong name then .error .tooLong
      else if files.entry? (folder ++ [name]) = some .folder then .error .isFolder
      else .ok (folder ++ [name]) := by
  -- The name is a step, so only its length and a folder in its place can be in the way.
  obtain ⟨-, entry⟩ := Path.lastCut_of_fileName? named
  rw [isEntryName_eq, Bool.and_eq_true, decide_eq_true_eq] at entry
  rw [writesAt, sound, named]
  dsimp only
  rw [Way.next, goal]
  show (stepFrom folder name).bind _ = _
  rw [stepFrom, if_pos entry.1, if_neg entry.2]
  split <;> rfl

/-- Where a file is planned no folder comes to stand. -/
theorem Grows.not_folder (grown : Grows plan files later) {location : Location} {content : Bytes}
    (chosen : plan location = some (.file content)) (free : files.entry? location ≠ some .folder) :
    later.entry? location ≠ some .folder := by
  -- The one entry that may have come is the file, as the plan chooses it.
  rcases grown.entry location with same | ⟨entry, again, stands⟩
  · rwa [same]
  · rw [stands, ← again, chosen]
    exact fun same => by cases same

/-- What writing a file does, when the folders for it are there by then. -/
theorem Grows.write (grown : Grows plan files later) (planned : files.IsPlan targets plan)
    (tree : files.IsTree) (ends : path.IsTrim ∨ path.fileName? = none)
    (onward : files.LeadsOn (files.start path).1 path.steps) {content : Bytes}
    (chosen : ∀ location entry, files.errand path content location = some entry →
      plan location = some entry)
    (room : files.room path = .ok ())
    (made : ∀ location ∈ files.madeFor path, later.entry? location = some .folder) :
    (∃ fault, later.write path content = .error fault ∧ files.writesAt path = .error fault) ∨
      ∃ location, files.writesAt path = .ok location ∧ location ≠ [] ∧
        later.write path content = .ok (later.put location (.file content)) ∧
        Grows plan later (later.put location (.file content)) := by
  cases sound : path.fault? with
  | some fault => exact .inl ⟨fault, write_of_fault sound content, by rw [writesAt, sound]⟩
  | none =>
    -- By now the walk gets to the folder of the file.
    obtain ⟨folder, goal⟩ := goal_of_room sound room
    have entered : later.enter (later.start path).1 (Path.steps ⟨path.lastCut.1⟩) = .ok folder := by
      rw [grown.start, ← goal]
      rw [madeFor_eq sound] at made
      rcases grown.enter_eq planned (tree.start path) fun location member =>
        chosen location _ (errand_of_madeFor (by rwa [madeFor_eq sound])) with
          ⟨-, entered⟩ | ⟨missing, -⟩
      · exact entered
      · exact absurd made missing
    -- From here on the file system answers by the name of the file and what stands at it.
    cases named : path.fileName? with
    | none =>
      exact .inl ⟨.isFolder, write_of_unnamed (grown.tree tree) sound named entered content, by
        rw [writesAt, sound, named]⟩
    | some name =>
      obtain ⟨component, entry⟩ := Path.lastCut_of_fileName? named
      obtain ⟨before, idle, pieces, front, -, trim⟩ := path.pieces_lastCut
      -- Nothing idle stands behind the name.
      rw [trim (ends.resolve_right (by simp [named])), component] at pieces
      have answer := write_eq later sound pieces entry content
      rw [front, entered] at answer
      have answer : later.write path content =
          if isOverlong name then .error .tooLong
          else if later.entry? (folder ++ [name]) = some .folder then .error .isFolder
          else .ok (later.put (folder ++ [name]) (.file content)) := answer
      have written := writesAt_eq sound named goal
      -- What is too long was too long before, and a folder in the way stays one.
      by_cases long : isOverlong name = true
      · rw [if_pos long] at answer written
        exact .inl ⟨_, answer, written⟩
      rw [if_neg long] at answer written
      by_cases stood : files.entry? (folder ++ [name]) = some .folder
      · rw [if_pos stood] at written
        rw [if_pos (grown.folder planned stood)] at answer
        exact .inl ⟨_, answer, written⟩
      · rw [if_neg stood] at written
        -- The plan puts the file there, so that no one else has put anything.
        have new := chosen _ _ (errand_of_writes onward room written)
        have free := grown.not_folder new stood
        rw [if_neg free] at answer
        have inner : folder ++ [name] ≠ [] := by simp
        exact .inr ⟨_, written, inner, answer, .put (grown.tree tree) inner new
          (by rw [List.dropLast_concat, entry?_of_enter entered]) free⟩

/-- What comes of making room for a file: the files have grown, and its folders are there. -/
def HasRoom (plan : Plan) (files : Files) (path : Path) (result : Except ConvertError Unit)
    (left : Files) : Prop :=
  Grows plan files left ∧ result = files.room path ∧
    ∀ location ∈ files.madeFor path, left.entry? location = some .folder

/-- What comes of writing a file: the files have grown, and all that was to be put is there. -/
def HasWritten (plan : Plan) (files : Files) (path : Path) (content : Bytes)
    (result : Except ConvertError Path) (left : Files) : Prop :=
  Grows plan files left ∧ result = (files.writes path).map (fun _ => path) ∧
    ∀ location entry, files.errand path content location = some entry →
      left.entry? location = some entry

namespace HasWritten

variable {content : Bytes} {left : Files} (grown : Grows plan files left)
  (made : ∀ location ∈ files.madeFor path, left.entry? location = some .folder)

include grown made

/-- A file that is not written leaves the folders that were made for it. -/
theorem of_error {error : ConvertError} (failed : files.writes path = .error error) :
    HasWritten plan files path content (.error error) left := by
  refine ⟨grown, by rw [failed]; rfl, fun location entry put => ?_⟩
  -- Of the errand only the folders can be put, as the file is not written.
  rcases errand_cases put with ⟨rfl, member⟩ | ⟨-, written⟩
  · exact made location member
  · rw [failed] at written
    cases written

/-- A file that is written is there, in the folders that were made for it. -/
theorem of_ok {location : Location} (written : files.writes path = .ok location)
    (there : left.entry? location = some (.file content)) :
    HasWritten plan files path content (.ok path) left := by
  -- The errand put the folders, and the file in the end.
  refine ⟨grown, by rw [written]; rfl, fun other entry put => ?_⟩
  rcases errand_cases put with ⟨rfl, member⟩ | ⟨rfl, here⟩
  · exact made other member
  · rw [written] at here
    obtain rfl := Except.ok.inj here
    exact there

end HasWritten

end Files

namespace Task

open Files

variable {σ : Type} {programs : Programs σ} {files later : Files} {plan : Plan}
  {targets : Location → Prop} {path : Path}

/-- Making room for a file is steady where a plan provides for it. -/
theorem makeRoomFor_steady (planned : files.IsPlan targets plan) (tree : files.IsTree)
    (onward : files.LeadsOn (files.start path).1 path.steps)
    (chosen : ∀ location ∈ files.madeFor path, plan location = some .folder)
    (grown : Grows plan files later) :
    (makeRoomFor path).Steady programs (Grows plan) (fun _ => Grows plan)
      (HasRoom plan files path) later := by
  unfold makeRoomFor
  cases found : path.folder? with
  -- Without a folder part there is nothing to make.
  | none =>
    refine .done ⟨grown, by rw [room, found], ?_⟩
    rw [madeFor, found]
    exact fun _ member => absurd member List.not_mem_nil
  | some folder =>
    obtain ⟨around, spelled⟩ := around_of_folder? found
    rw [madeFor_of_folder? found] at chosen
    -- The folder of the file has to have what a folder that is made has to have.
    have due : files.IsDue plan folder := by
      refine ⟨around.trim, ?_, fun sound location member => chosen location ?_⟩
      · rw [start_of_around files around spelled, around.steps]
        exact onward.front
      · rwa [if_pos sound]
    refine (makeFoldersWithin_steady planned tree due (Nat.lt_succ_self _) grown).bind ?_
    intro answer left done
    obtain ⟨grown, verdict, made⟩ := done
    refine .done ⟨grown, by rw [room_of_folder? found, verdict], fun location member => ?_⟩
    -- What is there by now are the folders that were due.
    rw [madeFor_of_folder? found] at member
    split at member
    case isTrue sound => exact made sound location member
    case isFalse => cases member

/-- Writing a file in folders that are made where needed is steady where a plan provides for it. -/
theorem writeFile_steady (planned : files.IsPlan targets plan) (tree : files.IsTree)
    (ends : path.IsTrim ∨ path.fileName? = none)
    (onward : files.LeadsOn (files.start path).1 path.steps) {content : Bytes}
    (chosen : ∀ location entry, files.errand path content location = some entry →
      plan location = some entry)
    (grown : Grows plan files later) :
    (writeFile path content).Steady programs (Grows plan) (fun _ => Grows plan)
      (HasWritten plan files path content) later := by
  -- All folders on the way are on the plan.
  have folders : ∀ location ∈ files.madeFor path, plan location = some .folder :=
    fun location member => chosen location _ (errand_of_madeFor member)
  refine (makeRoomFor_steady planned tree onward folders grown).bind ?_
  intro answer left done
  obtain ⟨grown, verdict, made⟩ := done
  -- With room for the file, what comes of writing it depends on its own place only.
  have writes : files.writes path =
      answer.bind fun () => (files.writesAt path).mapError fun fault => .io path fault.message := by
    rw [Files.writes, verdict]
  cases answer with
  -- Without room there is no file, and none was to be written.
  | error error => exact .done (.of_error grown made writes)
  | ok =>
    refine .write (fun _ => .refl) (fun last result further answer => ?_)
      fun last fault further answer => ?_
    -- What the file system answers by then is what the plan says, and it may be put there.
    all_goals
      have all := grown.trans further
      have made : ∀ location ∈ files.madeFor path, last.entry? location = some .folder :=
        fun location member => further.planned (folders location member) (made location member)
      rcases all.write planned tree ends onward chosen verdict.symm made with
        ⟨other, found, failed⟩ | ⟨location, written, inner, found, grows⟩ <;>
          rw [answer] at found <;> cases found
    · refine ⟨fun _ _ => grows, .done (.of_ok (all.trans grows) (fun other member => ?_)
        (writes.trans (by rw [written]; rfl)) (by rw [entry?_put inner, if_pos rfl]))⟩
      exact grows.planned (folders other member) (made other member)
    · exact .done (.of_error all made (writes.trans (by rw [failed]; rfl)))

end Task

end Manuscript
