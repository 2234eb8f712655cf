import Manuscript.Config.Ini
import Manuscript.Config.Json
import Manuscript.Config.Json5
import Manuscript.Config.Key
import Manuscript.Config.Ron
import Manuscript.Config.Toml.Reader
import Manuscript.Config.Yaml.Reader
import Manuscript.Files.Tasks

/-! Files that configurations are read from. -/

namespace Manuscript.Config

/-- What a configuration is written in. -/
inductive Format where
  | toml
  | json
  | yaml
  | ini
  | ron
  | json5
  deriving DecidableEq

namespace Format

/-- All formats, in the order in which their extensions are tried. -/
def all : List Format := [.toml, .json, .yaml, .ini, .ron, .json5]

/-- The extensions of a format. -/
def extensions : Format → List String
  | .toml => ["toml"]
  | .json => ["json"]
  | .yaml => ["yaml", "yml"]
  | .ini => ["ini"]
  | .ron => ["ron"]
  | .json5 => ["json5"]

/-- The format of an extension. -/
def ofExtension? (extension : List Char) : Option Format :=
  all.find? fun format => format.extensions.any (·.toList = extension)

/-- The members that a text in a format sets. -/
def read? : Format → List Char → Option Members
  | .toml => Toml.read?
  | .json => readJson?
  | .yaml => Yaml.read?
  | .ini => Ini.read?
  | .ron => Ron.read?
  | .json5 => Json5.read?

end Format

/-- Why a file gave no members. -/
inductive SourceFault where
  /-- There is no such file, none of a format that is known, or one that holds no text. -/
  | missing
  /-- Its text is not of its format. -/
  | malformed
  deriving DecidableEq

/-- The first file among some. -/
def firstFile? : List (Path × Format) → Task (Option (Path × Format))
  | [] => return none
  | (path, format) :: rest => do
    if ← Task.isFile path then return some (path, format) else firstFile? rest

/-- A path with one more extension. -/
def withMore (path : Path) (extension : String) : Path :=
  path.setExtension <|
    match path.extension? with
    | some held => held ++ '.' :: extension.toList
    | none => extension.toList

/--
The file that a name stands for: the one of that name, which has to be of a known format unless one
is given, or else one that has the extension of a format besides.
-/
def find? (format? : Option Format) (name : Path) : Task (Option (Path × Format)) := do
  -- Relative names start in the current folder.
  let path := (← Task.current .done).join name
  if ← Task.isFile path then
    let own? := Format.ofExtension? (path.extension?.getD [])
    return (format?.or own?).map fun format => (path, format)
  else
    -- Nothing of that very name: further extensions are tried in turn.
    let formats := match format? with
      | some format => [format]
      | none => Format.all
    firstFile? <| formats.flatMap fun format =>
      format.extensions.map fun extension => (withMore path extension, format)

/-- The members that a file sets. -/
def readFile (format? : Option Format) (name : Path) : Task (Except SourceFault Members) := do
  match ← find? format? name with
  | none => return .error .missing
  | some (path, format) =>
    match ← Task.read path .done with
    | .error _ => return .error .missing
    | .ok content =>
      match Utf8.decode? content with
      -- A file that is no text counts as one that is not there.
      | none => return .error .missing
      | some text =>
        match format.read? text.toList with
        | some members => return .ok members
        | none => return .error .malformed

/-- The texts that members stand for, if each one stands for a text. -/
def texts? (members : Members) : Option (List (String × String)) :=
  members.mapM fun member => member.2.text?.map fun text => (member.1, text)

end Manuscript.Config
