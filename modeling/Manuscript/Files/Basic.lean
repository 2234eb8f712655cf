import Manuscript.Path
import Manuscript.Text.Utf8

/-!
Files in folders, and how a path leads to them. Links and permissions are left out: each name in a
folder leads to a file or a folder of its own, which anyone may read and write.
-/

namespace Manuscript

/-- Why something could not be done to a file. -/
inductive FileFault where
  | missing
  | present
  | notFolder
  | isFolder
  | denied
  /-- A name or a path is longer than it may be. -/
  | tooLong
  /-- A path holds a character that ends a path. -/
  | cutShort
  | unknown (reason : String)
  deriving DecidableEq

/-- What is printed for a fault. -/
def FileFault.message : FileFault → String
  | .missing => "No such file or directory (os error 2)"
  | .present => "File exists (os error 17)"
  | .notFolder => "Not a directory (os error 20)"
  | .isFolder => "Is a directory (os error 21)"
  | .denied => "Permission denied (os error 13)"
  | .tooLong => "File name too long (os error 36)"
  | .cutShort => "file name contained an unexpected NUL byte"
  | .unknown reason => reason

/-- A name in a folder. -/
abbrev Name := List Char

/-- How many bytes a name may have. -/
def nameLimit : Nat := 255

/-- How many bytes a path may have. -/
def pathLimit : Nat := 4095

/-- How many bytes a spelling has. -/
def spellingSize (chars : List Char) : Nat := (String.ofList chars).utf8ByteSize

/-- A name is longer than it may be, so that nothing has it. -/
def isOverlong (name : Name) : Bool := nameLimit < spellingSize name

/-- What is wrong with the spelling of a path, whatever the files are. -/
def Path.fault? (path : Path) : Option FileFault :=
  -- The spelling is judged before anything is looked for.
  if path.chars.contains '\x00' then some .cutShort
  else if path.chars = [] then some .missing
  else if pathLimit < spellingSize path.chars then some .tooLong
  else none

/-- The names that lead from the root to a file or a folder. -/
abbrev Location := List Name

/-- The path of a location. -/
def Location.path (location : Location) : Path :=
  ⟨if location.isEmpty then ['/'] else location.flatMap fun name => '/' :: name⟩

/-- What stands at a location. -/
inductive Entry where
  | file (content : Bytes)
  | folder
  deriving DecidableEq

/-- What an entry is, whatever it holds. -/
inductive EntryKind where
  | file
  | folder
  deriving DecidableEq

/-- What an entry is. -/
def Entry.kind : Entry → EntryKind
  | .file _ => .file
  | .folder => .folder

/-- Files and folders by their locations, and the folder that relative paths start from. -/
structure Files where
  /-- The entries; of two at one location the first counts. -/
  entries : List (Location × Entry) := []
  /-- Where relative paths start. -/
  current : Location := []
  /-- Why no temporary folder can be made, where none can. -/
  temporaryFault? : Option FileFault := none

namespace Files

/-- What stands at a location; the root is a folder. -/
def entry? (files : Files) (location : Location) : Option Entry :=
  if location = [] then some .folder else files.entries.lookup location

/-- The files with an entry put at a location. -/
def put (files : Files) (location : Location) (entry : Entry) : Files :=
  { files with
    entries :=
      -- An entry that is replaced keeps its place among the others.
      if files.entries.any (·.1 = location) then
        files.entries.map fun held => if held.1 = location then (location, entry) else held
      else files.entries ++ [(location, entry)] }

/-- Follows names from a location. Every name but a last one has to be found in a folder. -/
def follow (files : Files) : Location → List Name → Except FileFault Location
  | location, [] => .ok location
  | location, name :: rest =>
    match files.entry? location with
    | none => .error .missing
    | some (.file _) => .error .notFolder
    | some .folder =>
      -- Idle steps stay in the folder, and a step up from the root stays there.
      if name = [] ∨ name = ['.'] then follow files location rest
      else if name = ['.', '.'] then follow files location.dropLast rest
      else if isOverlong name then .error .tooLong
      else follow files (location ++ [name]) rest

/-- The location that names start from, and the names of a path. -/
def start (files : Files) (path : Path) : Location × List Name :=
  (if path.isAbsolute then [] else files.current, piecesAt '/' path.chars)

/-- The location that a path leads to, whether or not something stands there. -/
def locate (files : Files) (path : Path) : Except FileFault Location :=
  match path.fault? with
  | some fault => .error fault
  | none => files.follow (files.start path).1 (files.start path).2

/-- What stands where a path leads to. -/
def find (files : Files) (path : Path) : Except FileFault Entry := do
  let location ← files.locate path
  match files.entry? location with
  | some entry => .ok entry
  | none => .error .missing

/-- What a path leads to. -/
def kind (files : Files) (path : Path) : Except FileFault EntryKind :=
  (files.find path).map Entry.kind

/-- The content of the file that a path leads to. -/
def read (files : Files) (path : Path) : Except FileFault Bytes :=
  match files.find path with
  | .ok (.file content) => .ok content
  | .ok .folder => .error .isFolder
  | .error fault => .error fault

/-- The names of a path before its last one, the last one, and whether a slash follows it. -/
def splitLast (names : List Name) : List Name × Name × Bool :=
  -- Slashes at the end leave empty names, which name nothing.
  let kept := (names.reverse.dropWhile (· = [])).reverse
  (kept.dropLast, kept.getLast?.getD [], kept.length < names.length)

/-- A name that leads to an entry of a folder. -/
def isEntryName (name : Name) : Bool := name ≠ [] && name ≠ ['.'] && name ≠ ['.', '.']

/-- The location where a path names an entry, and whether a slash follows the name. -/
def target (files : Files) (path : Path) : Except FileFault (Option Location × Bool) := do
  match path.fault? with
  | some fault => .error fault
  | none =>
    let (from_, names) := files.start path
    -- All but the last name have to be there already.
    let (before, last, slashed) := splitLast names
    let folder ← files.follow from_ before
    match files.entry? folder with
    | none => .error .missing
    | some (.file _) => .error .notFolder
    | some .folder =>
      .ok (if isEntryName last then some (folder ++ [last]) else none, slashed)

/-- What stands at a location in a folder, where no name may be too long. -/
def occupant (files : Files) (location : Location) : Except FileFault (Option Entry) :=
  if location.getLast?.any isOverlong then .error .tooLong else .ok (files.entry? location)

/-- The files with a content written to a file, which is new or replaced. -/
def write (files : Files) (path : Path) (content : Bytes) : Except FileFault Files := do
  match ← files.target path with
  -- A slash behind the name asks for a folder.
  | (some location, false) =>
    match ← files.occupant location with
    | some .folder => .error .isFolder
    | _ => .ok (files.put location (.file content))
  -- Steps that stay or go up lead to folders.
  | _ => .error .isFolder

/-- The files with a new folder. -/
def makeFolder (files : Files) (path : Path) : Except FileFault Files := do
  match ← files.target path with
  | (some location, _) =>
    match ← files.occupant location with
    | some _ => .error .present
    | none => .ok (files.put location .folder)
  -- Where no new name is given a folder stands already.
  | (none, _) => .error .present

/-- The names in the folder that a path leads to. -/
def list (files : Files) (path : Path) : Except FileFault (List Name) := do
  let location ← files.locate path
  match files.entry? location with
  | none => .error .missing
  | some (.file _) => .error .notFolder
  | some .folder =>
    .ok (files.entries.filterMap fun held =>
      -- The root is in no folder, not even in itself.
      if held.1.dropLast = location ∧ held.1 ≠ [] then held.1.getLast? else none)

/-- The files without a location and what is below it. -/
def remove (files : Files) (location : Location) : Files :=
  { files with entries := files.entries.filter fun held => !location.isPrefixOf held.1 }

/-- The folders that lead to a location put where nothing stands. -/
def withFolders (files : Files) (location : Location) : Files :=
  (List.range location.length).foldl
    (fun acc count =>
      let folder := location.take (count + 1)
      if (acc.entry? folder).isNone then acc.put folder .folder else acc)
    files

/-- Where temporary folders are made. -/
def temporaryRoot : Location := ["tmp".toList]

/-- The files with a temporary folder that is free, and its location. -/
def makeTemporary (files : Files) : Location × Files :=
  let candidate (n : Nat) : Location := temporaryRoot ++ [(".tmp" ++ toString n).toList]
  -- One number more than there are entries leaves one that is free.
  let free := (List.range (files.entries.length + 1)).find? fun n =>
    (files.entry? (candidate n)).isNone
  let location := candidate (free.getD files.entries.length)
  (location, files.withFolders location)

/-- The files with a new temporary folder and its location, where one can be made. -/
def newTemporary (files : Files) : Except FileFault (Location × Files) :=
  match files.temporaryFault? with
  | some fault => .error fault
  | none => .ok files.makeTemporary

end Files

end Manuscript
