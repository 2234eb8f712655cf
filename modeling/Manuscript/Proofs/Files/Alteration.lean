import Manuscript.Proofs.Files.Writing
import Manuscript.Proofs.Path.Names
import Manuscript.Proofs.Task.Requests
import Mathlib.Logic.Relation

/-!
Files that are altered: folders are made where nothing stood, and files are written at some
locations only. A path still leads where it led, and what stands elsewhere is the same.
-/

namespace Manuscript

namespace Files

/-- Files that have become others by folders that were made and files that were written. -/
structure Alters (written : Location → Prop) (files later : Files) : Prop where
  /-- Paths start where they did. -/
  current : later.current = files.current
  /-- A tree stays one. -/
  tree : files.IsTree → later.IsTree
  /-- What stands somewhere stood there before, or is a folder that was made or a file written. -/
  entry : ∀ location, later.entry? location = files.entry? location ∨
    (files.entry? location = none ∧ later.entry? location = some .folder) ∨
    (written location ∧ files.entry? location ≠ some .folder ∧
      ∃ content, later.entry? location = some (.file content))

variable {written : Location → Prop} {files later : Files} {path : Path}

namespace Alters

/-- Files are altered when nothing was done. -/
theorem refl (files : Files) : Alters written files files := ⟨rfl, id, fun _ => .inl rfl⟩

/-- A folder is still there. -/
theorem folder (altered : Alters written files later) {location : Location}
    (stood : files.entry? location = some .folder) : later.entry? location = some .folder := by
  rcases altered.entry location with same | ⟨-, stands⟩ | ⟨-, other, -⟩
  · rw [same, stood]
  · exact stands
  -- A location is written only where no folder stood.
  · exact absurd stood other

/-- Files may be altered further. -/
theorem trans {first between last : Files} (earlier : Alters written first between)
    (further : Alters written between last) : Alters written first last := by
  refine ⟨further.current.trans earlier.current, further.tree ∘ earlier.tree, fun location => ?_⟩
  -- What happened last at a location decides; before that it may have been altered as well.
  rcases further.entry location with same | ⟨empty, stands⟩ | ⟨chosen, other, stands⟩
  · rw [same]
    exact earlier.entry location
  · -- Nothing stood there before either.
    rcases earlier.entry location with same | ⟨-, made⟩ | ⟨-, -, _, made⟩
    · exact .inr (.inl ⟨same ▸ empty, stands⟩)
    · rw [empty] at made
      cases made
    · rw [empty] at made
      cases made
  · exact .inr (.inr ⟨chosen, fun stood => other (earlier.folder stood), stands⟩)

/-- Where files are written at some locations, they are written at more. -/
theorem mono {more : Location → Prop} (altered : Alters written files later)
    (enough : ∀ location, written location → more location) : Alters more files later :=
  ⟨altered.current, altered.tree, fun location =>
    (altered.entry location).imp id (.imp id (.imp (enough location) id))⟩

/-- Paths start where they did. -/
theorem start (altered : Alters written files later) (path : Path) :
    later.start path = files.start path := by
  simp only [Files.start, altered.current]

/-- A path leads by its steps where it did. -/
theorem place (altered : Alters written files later) (path : Path) :
    later.place path = files.place path := by
  simp only [Files.place, altered.start]

/-- A file that was not written is the same. -/
theorem file (altered : Alters written files later) {location : Location}
    (unwritten : ¬ written location) {content : Bytes} :
    later.entry? location = some (.file content) ↔
      files.entry? location = some (.file content) := by
  -- New folders stand where nothing stood, so they are no files before or after.
  rcases altered.entry location with same | ⟨empty, stands⟩ | ⟨chosen, -⟩
  · rw [same]
  · rw [empty, stands]
    simp
  · exact absurd chosen unwritten

/-- What was followed is still followed, for the folders on the way are still there. -/
theorem follow (altered : Alters written files later) {location found : Location}
    {names : List Name} (followed : files.follow location names = .ok found) :
    later.follow location names = .ok found := by
  -- Each folder that was entered is one still, so that the same steps can be taken.
  induction names generalizing location with
  | nil => exact followed
  | cons name rest ih =>
    rw [follow_cons] at followed ⊢
    obtain ⟨folder, found, behind⟩ := bind_eq_ok_iff.mp followed
    obtain ⟨next, leads, followed⟩ := bind_eq_ok_iff.mp behind
    obtain ⟨rfl, stood⟩ := folderAt_eq_ok_iff.mp found
    have stands := folderAt_eq_ok_iff.mpr ⟨rfl, altered.folder stood⟩
    exact bind_eq_ok_iff.mpr ⟨location, stands, bind_eq_ok_iff.mpr ⟨next, leads, ih followed⟩⟩

/-- A path still leads somewhere. -/
theorem locate (altered : Alters written files later) {location : Location}
    (located : files.locate path = .ok location) : later.locate path = .ok location := by
  unfold Files.locate at located ⊢
  -- Both walks start in the same folder and fail for the same paths.
  rw [altered.start]
  split at located
  · cases located
  · exact altered.follow located

/-- Something is put in a folder: a folder where nothing stood, or a file that may be written. -/
theorem put {location : Location} {entry : Entry} (inner : location ≠ [])
    (around : files.entry? location.dropLast = some .folder)
    (chosen : (entry = .folder ∧ files.entry? location = none) ∨
      (entry ≠ .folder ∧ written location ∧ files.entry? location ≠ some .folder)) :
    Alters written files (files.put location entry) := by
  -- In neither case does a folder give way.
  have free : files.entry? location ≠ some .folder := by
    rcases chosen with ⟨-, empty⟩ | ⟨-, -, free⟩
    · rw [empty]
      nofun
    · exact free
  refine ⟨rfl, fun tree => tree.put inner entry around free, fun other => ?_⟩
  -- Only one location is written, and all others keep what they hold.
  rw [entry?_put inner]
  split
  case isFalse => exact .inl rfl
  case isTrue same =>
    subst same
    rcases chosen with ⟨rfl, empty⟩ | ⟨file, chosen, free⟩
    · exact .inr (.inl ⟨empty, rfl⟩)
    · -- A folder is put at free places only, so that this is a file.
      cases entry with
      | folder => exact absurd rfl file
      | file content => exact .inr (.inr ⟨chosen, free, content, rfl⟩)

end Alters

/-- What is followed leads where its steps alone lead. -/
theorem foldl_of_follow {location found : Location} {names : List Name}
    (followed : files.follow location names = .ok found) :
    (names.filter isStep).foldl Location.step location = found := by
  -- The steps alone go through the same locations as the walk, which idle names do not leave.
  induction names generalizing location with
  | nil => exact Except.ok.inj followed
  | cons name rest ih =>
    rw [follow_cons] at followed
    obtain ⟨folder, stood, behind⟩ := bind_eq_ok_iff.mp followed
    obtain ⟨next, leads, followed⟩ := bind_eq_ok_iff.mp behind
    obtain ⟨rfl, -⟩ := folderAt_eq_ok_iff.mp stood
    by_cases step : isStep name = true
    · rw [List.filter_cons_of_pos step, List.foldl_cons, step_of_stepFrom step leads, ih followed]
    · rw [stepFrom, if_neg step] at leads
      obtain rfl := Except.ok.inj leads
      rw [List.filter_cons_of_neg step, ih followed]

/-- A path that leads somewhere leads where its steps alone lead. -/
theorem place_of_locate {location : Location} (located : files.locate path = .ok location) :
    files.place path = location := by
  unfold locate at located
  split at located
  · -- A path with a fault is not located at all.
    cases located
  · exact foldl_of_follow located

/-- A file is read where the path to it leads. -/
theorem read_eq_ok_iff {content : Bytes} :
    files.read path = .ok content ↔
      files.locate path = .ok (files.place path) ∧
        files.entry? (files.place path) = some (.file content) := by
  have found : files.find path = (files.locate path).bind files.entryAt := rfl
  unfold read
  rw [found]
  -- Only a file at the location that the path leads to can be read.
  cases located : files.locate path with
  | error fault => exact iff_of_false (by rintro ⟨⟩) (by rintro ⟨⟨⟩, _⟩)
  | ok location =>
    rw [place_of_locate located, Except.bind, entryAt]
    cases files.entry? location with
    | none => exact iff_of_false (by rintro ⟨⟩) (by rintro ⟨_, ⟨⟩⟩)
    | some entry =>
      cases entry with
      | folder => exact iff_of_false (by rintro ⟨⟩) (by rintro ⟨_, ⟨⟩⟩)
      -- A folder has no content.
      | file held => simp

/-- A file that was not written is still read. -/
theorem Alters.read (altered : Alters written files later)
    (unwritten : ¬ written (files.place path)) {content : Bytes}
    (read : files.read path = .ok content) : later.read path = .ok content := by
  obtain ⟨located, file⟩ := read_eq_ok_iff.mp read
  -- A file is read where its path leads, and the path still leads there.
  refine read_eq_ok_iff.mpr ⟨?_, ?_⟩ <;> rw [altered.place]
  · exact altered.locate located
  · exact (altered.file unwritten).mpr file

/-- A path that leads to a file in a tree ends in the name of the file. -/
theorem endsIn_of_read (tree : files.IsTree) {content : Bytes}
    (read : files.read path = .ok content) : ∃ name, path.EndsIn name := by
  obtain ⟨located, file⟩ := read_eq_ok_iff.mp read
  unfold locate at located
  split at located
  · cases located
  -- A path has a last piece, even where it is empty.
  obtain ⟨before, last, pieces⟩ : ∃ before last, piecesAt '/' path.chars = before ++ [last] := by
    rcases List.eq_nil_or_concat (piecesAt '/' path.chars) with none | ⟨before, last, cut⟩
    · exact absurd none (piecesAt_ne_nil '/' path.chars)
    · exact ⟨before, last, by rw [cut, List.concat_eq_append]⟩
  have names : (files.start path).2 = before ++ [last] := pieces
  rw [names, follow_append] at located
  -- The walk came to the folder around the last name.
  obtain ⟨folder, -, behind⟩ := bind_eq_ok_iff.mp located
  rw [follow_cons] at behind
  obtain ⟨same, found, behind⟩ := bind_eq_ok_iff.mp behind
  obtain ⟨rfl, stood⟩ := folderAt_eq_ok_iff.mp found
  obtain ⟨next, leads, behind⟩ := bind_eq_ok_iff.mp behind
  obtain rfl := Except.ok.inj behind
  -- An idle name or a step back leads to a folder, where no file stands.
  refine ⟨last, Path.endsIn_of_pieces pieces ?_⟩
  rw [isEntryName_eq, Bool.and_eq_true, decide_eq_true_eq]
  unfold stepFrom at leads
  split at leads
  case isFalse idle =>
    rw [← Except.ok.inj leads, stood] at file
    cases file
  case isTrue step =>
    refine ⟨step, fun up => ?_⟩
    rw [if_pos up] at leads
    rw [← Except.ok.inj leads, tree.parent stood] at file
    cases file

/-- Names before the last one, this one, and empty names behind it where a slash follows. -/
theorem splitLast_cut (names : List Name) (some : names ≠ []) :
    ∃ idle, names = (splitLast names).1 ++ (splitLast names).2.1 :: idle ∧
      (∀ name ∈ idle, name = []) ∧ ((splitLast names).2.2 = false → idle = []) := by
  -- The names are cut behind the last one that is not empty.
  have cut : names = (names.reverse.dropWhile (· = [])).reverse ++
      (names.reverse.takeWhile (· = [])).reverse := by
    rw [← List.reverse_append, List.takeWhile_append_dropWhile, List.reverse_reverse]
  have empty : ∀ name ∈ (names.reverse.takeWhile (· = [])).reverse, name = [] := by
    intro name member
    simpa using List.mem_takeWhile_imp (List.mem_reverse.mp member)
  unfold splitLast
  dsimp only
  generalize (names.reverse.dropWhile (· = [])).reverse = kept at cut ⊢
  generalize (names.reverse.takeWhile (· = [])).reverse = idle at cut empty
  -- Without a slash at the end there is nothing behind the last name.
  have slashless : decide (kept.length < names.length) = false → idle = [] := by
    intro short
    have size := congrArg List.length cut
    rw [List.length_append] at size
    have none := of_decide_eq_false short
    exact List.length_eq_zero_iff.mp (by omega)
  rcases List.eq_nil_or_concat kept with rfl | ⟨before, last, rfl⟩
  · -- All names are empty, and the first of them counts as the last name.
    obtain ⟨name, rest, rfl⟩ := List.exists_cons_of_ne_nil (show idle ≠ [] from fun none =>
      some (by rw [cut, none, List.append_nil]))
    obtain rfl := empty name List.mem_cons_self
    exact ⟨rest, cut, fun name member => empty name (List.mem_cons_of_mem _ member),
      fun short => absurd (slashless short) (List.cons_ne_nil _ _)⟩
  · -- The last of the names that are kept is the one before the cut.
    refine ⟨idle, ?_, empty, slashless⟩
    rw [cut]
    simp

/-- Names that no slash follows end in the last of them. -/
theorem splitLast_eq {names : List Name} (entry : isEntryName (splitLast names).2.1 = true)
    (slashless : (splitLast names).2.2 = false) :
    names = (splitLast names).1 ++ [(splitLast names).2.1] := by
  -- Without a name there is nothing that an entry could be called.
  have some : names ≠ [] := by
    rintro rfl
    cases entry
  obtain ⟨idle, cut, -, none⟩ := splitLast_cut names some
  rwa [none slashless] at cut

/-- Where a path names an entry, the folder around it is there. -/
theorem target_eq_ok {location : Location} {slashed : Bool}
    (named : files.target path = .ok (some location, slashed)) :
    path.fault? = none ∧ isEntryName (splitLast (files.start path).2).2.1 = true ∧
      slashed = (splitLast (files.start path).2).2.2 ∧
      ∃ folder, files.enter (files.start path).1 (splitLast (files.start path).2).1 = .ok folder ∧
        location = folder ++ [(splitLast (files.start path).2).2.1] := by
  -- With a sound path, what stops the walk is a folder on the way or a name that is none.
  cases sound : path.fault? with
  | some fault =>
    rw [target, sound] at named
    cases named
  | none =>
    rw [target_eq sound] at named
    cases entered : files.enter (files.start path).1 (splitLast (files.start path).2).1 with
    | error fault =>
      rw [entered] at named
      cases named
    | ok folder =>
      rw [entered] at named
      obtain ⟨same, slash⟩ := Prod.mk.inj (Except.ok.inj named)
      split at same
      -- A last name that is none has no location.
      case isTrue entry => exact ⟨rfl, entry, slash.symm, folder, rfl, (Option.some.inj same).symm⟩
      case isFalse => cases same

/-- A name of a folder that an entry may be put at. -/
theorem occupant_eq_ok {location : Location} {held : Option Entry}
    (occupied : files.occupant location = .ok held) :
    files.entry? location = held ∧ location.getLast?.any isOverlong = false := by
  unfold occupant at occupied
  split at occupied
  · -- A name that is too long is refused before anything is looked up.
    cases occupied
  case isFalse short => exact ⟨Except.ok.inj occupied, Bool.eq_false_iff.mpr short⟩

/-- A path that names an entry leads there by its steps. -/
theorem place_of_target {location : Location} {slashed : Bool}
    (named : files.target path = .ok (some location, slashed)) : files.place path = location := by
  obtain ⟨-, entry, -, folder, entered, rfl⟩ := target_eq_ok named
  -- What was entered is the folder where the walk ended.
  obtain ⟨found, followed, stood⟩ := bind_eq_ok_iff.mp entered
  obtain ⟨rfl, -⟩ := folderAt_eq_ok_iff.mp stood
  obtain ⟨idle, names, empty, -⟩ :=
    splitLast_cut (files.start path).2 (piecesAt_ne_nil '/' path.chars)
  rw [isEntryName_eq, Bool.and_eq_true, decide_eq_true_eq] at entry
  -- The names behind the last one are idle, and those before it were followed.
  have still : idle.filter isStep = [] := List.filter_eq_nil_iff.mpr fun name member => by
    rw [empty name member]
    decide
  have steps : path.steps = (splitLast (files.start path).2).1.filter isStep ++
      [(splitLast (files.start path).2).2.1] := by
    show (files.start path).2.filter isStep = _
    conv_lhs => rw [names]
    rw [List.filter_append, List.filter_cons_of_pos entry.1, still]
  rw [place, steps, List.foldl_append, foldl_of_follow followed, List.foldl_cons, List.foldl_nil,
    Location.step, if_neg entry.2]

/-- A folder that is made is put where its path leads, in a folder and where nothing stood. -/
theorem put_of_makeFolder {made : Files} (answer : files.makeFolder path = .ok made) :
    files.place path ≠ [] ∧ files.entry? (files.place path).dropLast = some .folder ∧
      files.entry? (files.place path) = none ∧
      made = files.put (files.place path) .folder := by
  unfold makeFolder at answer
  obtain ⟨⟨location?, slashed⟩, named, answer⟩ := bind_eq_ok_iff.mp answer
  cases location? with
  -- A path that does not name anything makes nothing.
  | none => cases answer
  | some location =>
    obtain rfl := place_of_target named
    obtain ⟨-, -, -, folder, entered, inner⟩ := target_eq_ok named
    obtain ⟨held, occupied, answer⟩ := bind_eq_ok_iff.mp answer
    -- Where something stands already, no folder is made.
    cases held with
    | some entry => cases answer
    | none =>
      refine ⟨by simp [inner], ?_, (occupant_eq_ok occupied).1, (Except.ok.inj answer).symm⟩
      rw [inner, List.dropLast_concat, entry?_of_enter entered]

/-- A folder that is made is put where nothing stood. -/
theorem alters_of_makeFolder {made : Files} (answer : files.makeFolder path = .ok made) :
    Alters written files made := by
  obtain ⟨inner, around, empty, rfl⟩ := put_of_makeFolder answer
  exact .put inner around (.inl ⟨rfl, empty⟩)

/-- Where a path names an entry that is no folder, the path leads to it and ends in its name. -/
theorem locate_of_target {location : Location}
    (named : files.target path = .ok (some location, false))
    (short : location.getLast?.any isOverlong = false) :
    files.locate path = .ok location ∧ (∃ name, path.EndsIn name) ∧ location ≠ [] ∧
      files.entry? location.dropLast = some .folder := by
  obtain ⟨sound, entry, slash, folder, entered, rfl⟩ := target_eq_ok named
  have names := splitLast_eq entry slash.symm
  -- From here on the names are those before the last one, and the last one.
  generalize (splitLast (files.start path).2).1 = before at entered names
  generalize (splitLast (files.start path).2).2.1 = last at *
  -- The folder was entered by the same steps, and the last one leads on to the name.
  refine ⟨?_, ⟨last, Path.endsIn_of_pieces names entry⟩, by simp, ?_⟩
  · rw [isEntryName_eq, Bool.and_eq_true, decide_eq_true_eq] at entry
    rw [List.getLast?_concat, Option.any_some] at short
    -- The last name is neither idle nor two dots nor too long.
    have leads : stepFrom folder last = .ok (folder ++ [last]) := by
      rw [stepFrom, if_pos entry.1, if_neg entry.2, if_neg (by simp [short])]
    obtain ⟨same, front, found⟩ := bind_eq_ok_iff.mp entered
    obtain ⟨rfl, -⟩ := folderAt_eq_ok_iff.mp found
    rw [locate, sound]
    dsimp only
    rw [names, follow_append]
    refine bind_eq_ok_iff.mpr ⟨_, front, ?_⟩
    rw [follow_cons]
    exact bind_eq_ok_iff.mpr ⟨_, found, bind_eq_ok_iff.mpr ⟨_, leads, rfl⟩⟩
  · rw [List.dropLast_concat, entry?_of_enter entered]

/-- What writing a file does: it is put where its path leads, and where no folder stands. -/
structure HasPut (files : Files) (path : Path) (content : Bytes) (later : Files) : Prop where
  /-- The path leads to the file. -/
  located : files.locate path = .ok (files.place path)
  /-- The path ends in the name of the file. -/
  ends : ∃ name, path.EndsIn name
  /-- The file is not the root. -/
  inner : files.place path ≠ []
  /-- The folder around the file is there. -/
  around : files.entry? (files.place path).dropLast = some .folder
  /-- The file does not take the place of a folder. -/
  free : files.entry? (files.place path) ≠ some .folder
  /-- The file is there, and nothing else was done. -/
  put : later = files.put (files.place path) (.file content)

/-- A file that is written is put where its path leads. -/
theorem hasPut_of_write {content : Bytes} {later : Files}
    (answer : files.write path content = .ok later) : files.HasPut path content later := by
  unfold write at answer
  obtain ⟨⟨location?, slashed⟩, named, answer⟩ := bind_eq_ok_iff.mp answer
  cases location? with
  | none => cases answer
  | some location =>
    cases slashed with
    -- A path with a slash at its end names no file.
    | true => cases answer
    | false =>
      obtain ⟨held, occupied, answer⟩ := bind_eq_ok_iff.mp answer
      obtain ⟨stood, short⟩ := occupant_eq_ok occupied
      obtain ⟨located, ends, inner, around⟩ := locate_of_target named short
      -- Nothing stood there, or a file that is written over; a folder would be an error.
      have done : files.entry? location ≠ some .folder ∧
          files.put location (.file content) = later := by
        rw [stood]
        cases held with
        | none => exact ⟨by simp, Except.ok.inj answer⟩
        | some entry =>
          cases entry with
          | folder => cases answer
          | file old => exact ⟨by simp, Except.ok.inj answer⟩
      -- Where the file comes is where the path leads to.
      obtain rfl := place_of_locate located
      exact ⟨located, ends, inner, around, done.1, done.2.symm⟩

/-- A file that was put alters files only where it stands. -/
theorem HasPut.alters {content : Bytes} {later : Files} (put : files.HasPut path content later)
    (chosen : written (files.place path)) : Alters written files later := by
  rw [put.put]
  exact .put put.inner put.around (.inr ⟨nofun, chosen, put.free⟩)

/-- A file that was put is read where its path leads. -/
theorem HasPut.read {content : Bytes} {later : Files} (put : files.HasPut path content later) :
    later.read path = .ok content := by
  -- The way to the file is as it was, and at its end the file was put.
  have altered : Alters (fun _ => True) files later := put.alters trivial
  refine read_eq_ok_iff.mpr ⟨?_, ?_⟩
  · rw [altered.place]
    exact altered.locate put.located
  · rw [altered.place, put.put, entry?_put put.inner, if_pos rfl]

end Files

/-- A question of what is there, or a folder that is to be made. -/
def Request.MakesFolders : Request → Prop
  | .makeFolder _ => True
  | request => request.IsLook

/-- Making folders alters files without writing any. -/
theorem Request.MakesFolders.alters {σ : Type} {programs : Programs σ} {world : World σ}
    {request : Request} {left : Files} {written : Location → Prop} (makes : request.MakesFolders)
    (does : request.Does programs world left) : Files.Alters written world.files left := by
  -- Only the request for a folder does anything, and that puts folders where nothing stood.
  cases request with
  | makeFolder path =>
    rcases does with rfl | made
    · exact .refl _
    · exact Files.alters_of_makeFolder made
  | warn _ | find _ | read _ | current =>
    obtain rfl : left = world.files := does
    exact .refl _
  | _ => cases makes

/-- A path is that of the folder another path names an entry of, as it is spelled. -/
def Path.IsParentOf (outer inner : Path) : Prop := inner.parent? = some outer

/-- A question of what is there, or a folder that is to be made at one of some paths. -/
def Request.MakesFolderAt (chosen : Path → Prop) : Request → Prop
  | .makeFolder path => chosen path
  | request => request.IsLook

namespace Request.MakesFolderAt

variable {chosen : Path → Prop} {request : Request}

/-- Folders that are made at some paths are made at more of them. -/
theorem mono {more : Path → Prop} (enough : ∀ path, chosen path → more path) (request : Request)
    (makes : request.MakesFolderAt chosen) : request.MakesFolderAt more := by
  cases request with
  | makeFolder path => exact enough path makes
  | _ => exact makes

/-- A folder that is made at one of some paths is a folder. -/
theorem makesFolders (makes : request.MakesFolderAt chosen) : request.MakesFolders := by
  cases request with
  | makeFolder path => trivial
  | _ => exact makes

end Request.MakesFolderAt

namespace Task

/-- Making a folder asks for folders at its own path and at those of the folders around it. -/
theorem makeFoldersWithin_asks_at (bound : Nat) (path : Path) :
    (makeFoldersWithin bound path).Asks
      (Request.MakesFolderAt (Relation.ReflTransGen Path.IsParentOf · path)) := by
  -- Looking whether the folder is there asks for none to be made.
  have present : ∀ path fault, (orPresent path fault).Asks
      (Request.MakesFolderAt (Relation.ReflTransGen Path.IsParentOf · path)) := by
    intro path fault
    refine ⟨trivial, fun answer => ?_⟩
    dsimp only [bind]
    split <;> trivial
  -- Each attempt asks for one folder, and then for what stands there or for those around it.
  induction bound generalizing path with
  | zero => trivial
  | succ bound ih =>
    unfold makeFoldersWithin
    split
    · trivial
    refine ⟨.refl, fun answer => ?_⟩
    dsimp only
    split
    · trivial
    · split
      · trivial
      case h_2 parent found =>
        -- The folders around the one above are around this one, too.
        refine ((ih parent).weaken ?_).bind fun made => ?_
        · exact Request.MakesFolderAt.mono fun outer around => around.tail found
        split
        · trivial
        · refine ⟨.refl, fun again => ?_⟩
          dsimp only
          split
          · trivial
          · exact present _ _
    · exact present _ _

/-- Making a folder and those around it makes folders only. -/
theorem makeFoldersWithin_asks (bound : Nat) (path : Path) :
    (makeFoldersWithin bound path).Asks Request.MakesFolders :=
  (makeFoldersWithin_asks_at bound path).weaken fun _ => Request.MakesFolderAt.makesFolders

/-- Making room for a file makes folders only. -/
theorem makeRoomFor_asks (path : Path) : (makeRoomFor path).Asks Request.MakesFolders := by
  unfold makeRoomFor
  split
  · trivial
  · exact (makeFoldersWithin_asks _ _).bind fun _ => trivial

variable {σ : Type} {programs : Programs σ} {files later : Files} {path : Path}
  {others : Location → Prop} {written : Except ConvertError Path → Location → Prop}

/--
Writing a file in folders that are made where needed, while others write elsewhere or there: folders
are made, and when it ends well the file is put where its path leads and can be read just then.
-/
theorem writeFile_alters {content : Bytes}
    (chosen : (∃ name, path.EndsIn name) → written (.ok path) (files.place path))
    (altered : Files.Alters others files later) :
    (writeFile path content).Steady programs (Files.Alters others)
      (fun result => Files.Alters (written result))
      (fun result left => left.current = files.current ∧ ∀ spelled, result = .ok spelled →
        spelled = path ∧ (∃ name, path.EndsIn name) ∧ left.read path = .ok content) later := by
  -- Making room writes no file, so that it counts as nothing done for the result.
  have room : (makeRoomFor path).Steady programs (Files.Alters others)
      (fun _ => Files.Alters fun _ => False) (fun _ left => Files.Alters others files left) later :=
    (makeRoomFor_asks path).steady (fun _ makes _ _ => makes.alters) (fun _ => id)
      (fun first => first.trans) (fun done => done.mono fun _ => False.elim) altered
  refine room.bind_of (fun _ _ _ _ _ done => done.mono fun _ => False.elim) ?_
  intro answer left altered
  -- Without room the file is never written.
  cases answer with
  | error error => exact .done ⟨altered.current, nofun⟩
  | ok =>
    refine .write (fun _ => .refl) (fun last result further answer => ?_)
      fun last fault further answer => .done ⟨(altered.trans further).current, nofun⟩
    -- What a write leaves is one file that was put where the path leads to.
    have put := Files.hasPut_of_write answer
    have all := altered.trans further
    refine ⟨fun given gives => put.alters ?_, .done ⟨?_, fun spelled same => ?_⟩⟩
    · obtain rfl : Except.ok path = given := gives
      rw [all.place]
      exact chosen put.ends
    · rw [put.put]
      exact all.current
    · exact ⟨(Except.ok.inj same).symm, put.ends, put.read⟩

end Task

end Manuscript
