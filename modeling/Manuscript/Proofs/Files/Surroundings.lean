import Manuscript.Proofs.Files.Alteration

/-!
What stands around a path when a file is written there: folders may have been made on the way, where
nothing stood, and nothing else was done before the file itself was put in its place.
-/

namespace Manuscript

/-- A path is that of a folder around another one, as this is spelled. -/
def Path.Surrounds (outer path : Path) : Prop := Relation.TransGen IsParentOf outer path

namespace Files

/-- A location that a path around another one leads to. -/
def LiesAround (files : Files) (path : Path) (location : Location) : Prop :=
  ∃ outer : Path, outer.Surrounds path ∧ files.place outer = location

/-- Files that have become others by folders that were made at some locations. -/
structure GainsFolders (chosen : Location → Prop) (files later : Files) : Prop where
  /-- Paths start where they did. -/
  current : later.current = files.current
  /-- What stands somewhere stood there before, or is a folder that was made where nothing stood. -/
  entry : ∀ location, later.entry? location = files.entry? location ∨
    (chosen location ∧ files.entry? location = none ∧ later.entry? location = some .folder)

variable {chosen : Location → Prop} {files later : Files} {path : Path}

namespace GainsFolders

/-- Files have gained folders when nothing was done. -/
theorem refl (files : Files) : GainsFolders chosen files files := ⟨rfl, fun _ => .inl rfl⟩

/-- Files may gain further folders. -/
theorem trans {first between last : Files} (earlier : GainsFolders chosen first between)
    (further : GainsFolders chosen between last) : GainsFolders chosen first last := by
  refine ⟨further.current.trans earlier.current, fun location => ?_⟩
  rcases further.entry location with same | ⟨here, empty, stands⟩
  · rw [same]
    exact earlier.entry location
  · -- Nothing was there before the first of the folders either.
    rcases earlier.entry location with same | ⟨-, -, made⟩
    · exact .inr ⟨here, same ▸ empty, stands⟩
    · rw [empty] at made
      cases made

/-- A file is neither new nor gone nor changed. -/
theorem file (gained : GainsFolders chosen files later) (location : Location) (content : Bytes) :
    later.entry? location = some (.file content) ↔
      files.entry? location = some (.file content) := by
  -- A gained folder stands where nothing stood.
  rcases gained.entry location with same | ⟨-, empty, stands⟩
  · rw [same]
  · rw [empty, stands]
    simp

/-- A path leads by its steps where it did. -/
theorem place (gained : GainsFolders chosen files later) (path : Path) :
    later.place path = files.place path := by
  simp only [Files.place, Files.start, gained.current]

end GainsFolders

/-- A path that leads somewhere passes the folder around its last name, and takes that from there. -/
theorem walk_of_locate {location : Location} (located : files.locate path = .ok location) :
    path.fault? = none ∧ ∃ folder next idle,
      files.enter (files.start path).1 (splitLast (files.start path).2).1 = .ok folder ∧
      stepFrom folder (splitLast (files.start path).2).2.1 = .ok next ∧
      files.follow next idle = .ok location := by
  -- Behind the last name there are only idle ones.
  obtain ⟨idle, names, -, -⟩ :=
    splitLast_cut (files.start path).2 (piecesAt_ne_nil '/' path.chars)
  unfold locate at located
  split at located
  · cases located
  case h_2 sound =>
    -- The names in front are followed to a folder, and the last one is a step from that.
    rw [names, follow_append] at located
    obtain ⟨folder, front, behind⟩ := bind_eq_ok_iff.mp located
    rw [follow_cons] at behind
    obtain ⟨same, around, behind⟩ := bind_eq_ok_iff.mp behind
    obtain ⟨rfl, -⟩ := folderAt_eq_ok_iff.mp around
    obtain ⟨next, leads, behind⟩ := bind_eq_ok_iff.mp behind
    exact ⟨sound, folder, next, idle, bind_eq_ok_iff.mpr ⟨folder, front, around⟩, leads, behind⟩

/-- A walk to something starts at something. -/
theorem exists_entry?_of_follow {next location : Location} {names : List Name} {entry : Entry}
    (followed : files.follow next names = .ok location)
    (stands : files.entry? location = some entry) : ∃ held, files.entry? next = some held := by
  -- Without names the walk ends where it starts, and with some it starts in a folder.
  cases names with
  | nil =>
    obtain rfl := Except.ok.inj followed
    exact ⟨entry, stands⟩
  | cons name rest =>
    rw [follow_cons] at followed
    obtain ⟨_, stood, -⟩ := bind_eq_ok_iff.mp followed
    exact ⟨.folder, (folderAt_eq_ok_iff.mp stood).2⟩

/-- No folder is made where a path leads to something. -/
theorem makeFolder_of_find {entry : Entry} (found : files.find path = .ok entry) :
    files.makeFolder path = .error .present := by
  obtain ⟨location, located, stands⟩ :=
    bind_eq_ok_iff.mp (show (files.locate path).bind files.entryAt = .ok entry from found)
  -- What is found stands at the location that the path leads to.
  have there : files.entry? location = some entry := by
    unfold entryAt at stands
    split at stands
    case h_1 held => rw [held, Except.ok.inj stands]
    case h_2 => cases stands
  obtain ⟨sound, folder, next, idle, entered, leads, behind⟩ := walk_of_locate located
  obtain ⟨held, here⟩ := exists_entry?_of_follow behind there
  rw [makeFolder, target_eq sound, entered]
  generalize (splitLast (files.start path).2).2.1 = last at leads
  -- A last name that names no entry leads to a folder that is there.
  cases named : isEntryName last with
  | false => rfl
  | true =>
    rw [isEntryName_eq, Bool.and_eq_true, decide_eq_true_eq] at named
    unfold stepFrom at leads
    rw [if_pos named.1, if_neg named.2] at leads
    split at leads
    · cases leads
    case isFalse short =>
      obtain rfl := Except.ok.inj leads
      -- The place of the new folder is taken.
      show (files.occupant (folder ++ [last])).bind _ = _
      rw [occupant, List.getLast?_concat, Option.any_some, if_neg short, here]
      rfl

/-- Folders around a path were made, and nothing else was done. -/
def MakesRoom (path : Path) (files later : Files) : Prop :=
  GainsFolders (files.LiesAround path) files later

/-- Nothing needs to be done. -/
theorem MakesRoom.refl (files : Files) : MakesRoom path files files :=
  GainsFolders.refl files

/-- Further folders may be made around the path. -/
theorem MakesRoom.trans {first between last : Files} (earlier : MakesRoom path first between)
    (further : MakesRoom path between last) : MakesRoom path first last := by
  -- What lies around the path is the same before and after the first of the folders.
  have around : between.LiesAround path = first.LiesAround path := by
    funext location
    simp only [LiesAround, earlier.place]
  rw [MakesRoom, around] at further
  exact GainsFolders.trans earlier further

/-- What writing a file leaves: the file is there, and at most folders around it are new. -/
structure Receives (files : Files) (path : Path) (content : Bytes) (later : Files) : Prop where
  /-- Paths start where they did. -/
  current : later.current = files.current
  /-- The path leads to the file. -/
  read : later.read path = .ok content
  /-- What stands elsewhere stood there before, or is a folder around it where nothing stood. -/
  elsewhere : ∀ location, location ≠ files.place path →
    later.entry? location = files.entry? location ∨
      (files.LiesAround path location ∧ files.entry? location = none ∧
        later.entry? location = some .folder)

/-- A file that is put where room was made for it is there, and nothing else was done. -/
theorem MakesRoom.receives {between : Files} {content : Bytes}
    (room : MakesRoom path files between) (put : between.HasPut path content later) :
    files.Receives path content later where
  current := by
    rw [put.put]
    exact room.current
  read := put.read
  elsewhere location other := by
    -- Room is made elsewhere than at the place of the file.
    have same : later.entry? location = between.entry? location := by
      rw [put.put, entry?_put put.inner, if_neg (room.place path ▸ other)]
    rw [same]
    exact room.entry location

end Files

/-- A folder that is made around a path makes room there. -/
theorem Request.MakesFolderAt.makesRoom {σ : Type} {programs : Programs σ} {world : World σ}
    {path : Path} {request : Request} {left : Files}
    (makes : request.MakesFolderAt (·.Surrounds path))
    (does : request.Does programs world left) : Files.MakesRoom path world.files left := by
  cases request with
  | makeFolder outer =>
    -- A request that fails leaves everything as it was.
    rcases does with rfl | made
    · exact .refl _
    obtain ⟨inner, -, empty, rfl⟩ := Files.put_of_makeFolder made
    -- The one location that is new is where the path of the folder leads.
    refine ⟨rfl, fun location => ?_⟩
    rw [Files.entry?_put inner]
    split
    case isTrue same => exact .inr ⟨⟨outer, makes, same.symm⟩, same ▸ empty, rfl⟩
    case isFalse => exact .inl rfl
  | warn _ | find _ | read _ | current =>
    obtain rfl : left = world.files := does
    exact .refl _
  | _ => cases makes

namespace Task

variable {σ : Type} (programs : Programs σ) {path folder : Path} {content : Bytes}

/-- Making room for a file asks for folders around it. -/
theorem makeRoomFor_asks_around (path : Path) :
    (makeRoomFor path).Asks (Request.MakesFolderAt (·.Surrounds path)) := by
  unfold makeRoomFor
  split
  · trivial
  case h_2 folder found =>
    -- The folder that is asked for is the parent, and all others surround this one.
    have parent : folder.IsParentOf path := (Option.filter_eq_some_iff.mp found).1
    refine Asks.bind ?_ fun _ => trivial
    exact (makeFoldersWithin_asks_at _ folder).weaken
      (Request.MakesFolderAt.mono fun outer around => .tail' around parent)

/-- Making room for a file does nothing else. -/
theorem makesRoom_makeRoomFor (path : Path) (world : World σ) :
    Files.MakesRoom path world.files ((makeRoomFor path).run programs world).2.files :=
  (makeRoomFor_asks_around path).run (fun _ makes _ _ does => makes.makesRoom does)
    Files.MakesRoom.refl (fun first last => first.trans last) world

/-- Where there is no room for a file, the folder around it is at fault. -/
theorem error_of_makeRoomFor {world : World σ} {error : ConvertError}
    (failed : ((makeRoomFor path).run programs world).1 = .error error) :
    ∃ folder reason, path.folder? = some folder ∧ error = .io folder reason := by
  unfold makeRoomFor at failed
  cases found : path.folder? with
  -- Without a folder part nothing is made, and nothing fails.
  | none =>
    rw [found] at failed
    cases failed
  | some folder =>
    rw [found] at failed
    -- Nothing but making the folder can fail, and the error tells its path.
    have answer := congrArg Prod.fst (run_bind programs (makeFolders folder)
      (fun made => .done (made.mapError fun fault => ConvertError.io folder fault.message)) world)
    have failed := answer.symm.trans failed
    dsimp only [run] at failed
    cases made : ((makeFolders folder).run programs world).1 with
    | ok =>
      rw [made] at failed
      cases failed
    | error fault =>
      rw [made] at failed
      exact ⟨folder, fault.message, rfl, (Except.error.inj failed).symm⟩

/-- Where a file stands instead of the folder around another one, nothing is made. -/
theorem makeRoomFor_run_of_file {world : World σ} (found : path.folder? = some folder)
    (stands : world.files.find folder = .ok (.file content)) :
    (makeRoomFor path).run programs world =
      (.error (.io folder FileFault.present.message), world) := by
  -- The folder part is written with at least one character.
  have some : folder.chars ≠ [] := by
    simpa using (Option.filter_eq_some_iff.mp found).2
  -- Only one folder is asked for, and the file that is there is no folder.
  have failed : (makeFolders folder).run programs world = (.error .present, world) := by
    unfold makeFolders makeFoldersWithin
    rw [if_neg some]
    simp only [run, Files.makeFolder_of_find stands]
    show (Task.bind (isFolder folder) _).run programs world = _
    rw [run_bind, isFolder, run, Files.kind, stands]
    rfl
  unfold makeRoomFor
  rw [found]
  show (Task.bind _ _).run programs world = _
  rw [run_bind, failed]
  rfl

/-- A file is written once there is room for it. -/
theorem writeFile_run (path : Path) (content : Bytes) (world : World σ) :
    (writeFile path content).run programs world =
      match (makeRoomFor path).run programs world with
      | (.error error, left) => (.error error, left)
      | (.ok (), left) =>
        match left.files.write path content with
        | .ok files => (.ok path, { left with files })
        | .error fault => (.error (.io path fault.message), left) := by
  -- Room is made first, and the file is written to what that leaves behind.
  show (Task.bind (makeRoomFor path) _).run programs world = _
  rw [run_bind]
  generalize (makeRoomFor path).run programs world = made
  obtain ⟨answer, left⟩ := made
  cases answer with
  -- Without room the writing is not tried.
  | error error => rfl
  | ok =>
    show (Task.write path content _).run programs left = _
    rw [run]
    dsimp only
    cases left.files.write path content <;> rfl

/--
What comes of writing a file: room is made for it, and then the file is put there; or nothing more
is done, and the path of the file or of the folder around it is at fault.
-/
theorem writeFile_outcome (path : Path) (content : Bytes) (world : World σ) :
    ∃ between, Files.MakesRoom path world.files between ∧
      ((((writeFile path content).run programs world).1 = .ok path ∧
          between.HasPut path content ((writeFile path content).run programs world).2.files) ∨
        ∃ place reason, (place = path ∨ path.folder? = some place) ∧
          ((writeFile path content).run programs world).1 = .error (.io place reason) ∧
          ((writeFile path content).run programs world).2.files = between) := by
  -- The files in between are those that making room leaves, whether it ends well or not.
  refine ⟨_, makesRoom_makeRoomFor programs path world, ?_⟩
  -- What fails before the writing is about the folder of the file.
  have fault : ∀ error, ((makeRoomFor path).run programs world).1 = .error error →
      ∃ folder reason, path.folder? = some folder ∧ error = .io folder reason :=
    fun _ => error_of_makeRoomFor programs
  rw [writeFile_run]
  generalize (makeRoomFor path).run programs world = made at fault ⊢
  obtain ⟨answer, left⟩ := made
  cases answer with
  | error error =>
    obtain ⟨folder, reason, found, rfl⟩ := fault error rfl
    exact .inr ⟨folder, reason, .inr found, rfl, rfl⟩
  | ok =>
    dsimp only
    cases answer : left.files.write path content with
    | ok files => exact .inl ⟨rfl, Files.hasPut_of_write answer⟩
    -- A write that fails leaves what was made room with.
    | error reason => exact .inr ⟨path, reason.message, .inl rfl, rfl, rfl⟩

end Task

end Manuscript
