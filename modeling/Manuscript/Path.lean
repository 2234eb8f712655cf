import Manuscript.Text.Search

/-!
Paths of files: their steps, the last name with its stem and extension, and new paths from old.
-/

namespace Manuscript

/-- A path as it is spelled. -/
structure Path where
  /-- The characters of the spelling. -/
  chars : List Char
  deriving DecidableEq

namespace Path

/-- The path of a spelling. -/
def ofString (text : String) : Path := ⟨text.toList⟩

/-- The spelling of a path. -/
def text (path : Path) : String := String.ofList path.chars

/-- A path that starts at the root. -/
def isAbsolute (path : Path) : Bool := path.chars.head? = some '/'

/-- Drops the slashes and dots at the end that name nothing; the text is given backwards. -/
def dropIdle : List Char → List Char
  | '/' :: rest => dropIdle rest
  | '.' :: '/' :: rest => dropIdle rest
  | text => text

/-- The path without idle slashes and dots at its end, cut before its last component. -/
def lastCut (path : Path) : List Char × List Char :=
  let backwards := dropIdle path.chars.reverse
  ((backwards.dropWhile (· != '/')).reverse, (backwards.takeWhile (· != '/')).reverse)

/-- The last component, when it is a name: neither the root nor a step to a directory. -/
def fileName? (path : Path) : Option (List Char) :=
  let last := path.lastCut.2
  if last = [] ∨ last = ['.'] ∨ last = ['.', '.'] then none else some last

/-- A name cut at its last dot; a dot in front and a dotless name have no extension. -/
def splitName (name : List Char) : List Char × Option (List Char) :=
  let backwards := name.reverse
  match backwards.dropWhile (· != '.') with
  | [] => (name, none)
  -- The only dot is in front.
  | [_] => (name, none)
  | _ :: stem => (stem.reverse, some (backwards.takeWhile (· != '.')).reverse)

/-- The last name without its extension. -/
def stem? (path : Path) : Option (List Char) := path.fileName?.map fun name => (splitName name).1

/-- What follows the last dot of the last name. -/
def extension? (path : Path) : Option (List Char) :=
  path.fileName?.bind fun name => (splitName name).2

/-- The last name with another extension; a path without a last name stays as it is. -/
def setExtension (path : Path) (extension : List Char) : Path :=
  match path.stem? with
  | none => path
  | some stem => ⟨path.lastCut.1 ++ stem ++ '.' :: extension⟩

/--
The path with another extension. As many characters as the old extension has are dropped from the
end first, and the extension of what is left is then set.
-/
def withExtension (path : Path) (extension : List Char) : Path :=
  match path.extension? with
  | none => path.setExtension extension
  | some old => setExtension ⟨path.chars.take (path.chars.length - old.length)⟩ extension

/-- The path up to its last component; the root and the empty path have none. -/
def parent? (path : Path) : Option Path :=
  match path.lastCut with
  | ([], []) => none
  | (before, _) =>
    -- The slash in front of the last component goes, unless it is the root.
    let kept := (dropIdle before.reverse).reverse
    some ⟨if kept = [] ∧ path.isAbsolute then ['/'] else kept⟩

/-- The directory that has to exist before a file can stand at the path, when the path names one. -/
def folder? (path : Path) : Option Path :=
  path.parent?.filter fun parent => parent.chars ≠ []

/-- A path below a directory; an absolute path stands for itself. -/
def join (dir name : Path) : Path :=
  -- What starts at the root needs no directory, and an empty directory adds nothing.
  if name.isAbsolute ∨ dir.chars = [] then name
  else if dir.chars.getLast? = some '/' then ⟨dir.chars ++ name.chars⟩
  else ⟨dir.chars ++ '/' :: name.chars⟩

/-- A file of a directory named like a path, with another extension. -/
def withStemIn (dir path : Path) (extension : List Char) : Path :=
  dir.join ⟨path.stem?.getD path.chars ++ '.' :: extension⟩

/-- One step of a path. -/
inductive Component where
  /-- To the root. -/
  | root
  /-- To the current directory; it counts at the front of a path only. -/
  | here
  /-- To the parent. -/
  | up
  /-- To an entry of the directory. -/
  | name (name : List Char)
  deriving DecidableEq

/-- The step that a piece stands for behind the front of a path. -/
def stepOf? (piece : List Char) : Option Component :=
  if piece = [] ∨ piece = ['.'] then none
  else if piece = ['.', '.'] then some .up
  else some (.name piece)

/-- The steps of a path: paths with the same steps are the same path. -/
def components (path : Path) : List Component :=
  match piecesAt '/' path.chars with
  | [] => []
  | first :: rest =>
    -- A dot says something at the front alone.
    let front :=
      if path.isAbsolute then [.root]
      else if first = ['.'] then [.here]
      else (stepOf? first).toList
    front ++ rest.filterMap stepOf?

/-- Two spellings that differ in idle slashes and dots only. -/
def same (a b : Path) : Bool := a.components = b.components

end Path

end Manuscript
