import Manuscript.Config.File
import Manuscript.Settings.Overrides
import Manuscript.Settings.Reader

/-!
Settings put together. Files are laid over the values that the program starts with, one over
another, and single values over all files. Neither the tables of a file nor the single values have an
order: they are laid over the rest in whatever order they come up.
-/

namespace Manuscript

open Config

/-- A file of settings. -/
structure Layer where
  /-- Its path; the extension may be left out. -/
  path : Path
  /-- It has to be there. -/
  required : Bool
  deriving DecidableEq

/-- What settings are put together of. -/
structure Loader where
  /-- The files, each laid over those before it. -/
  layers : List Layer := []
  /-- The values over all files. -/
  overrides : Overrides := .empty

/-- How the maps of a configuration are gone through, which have no order of their own. -/
structure LayingOrder where
  /-- How the members of a table are gone through. -/
  tables : EntryOrder String Value := .asListed
  /-- How the values over all files are gone through. -/
  overrides : EntryOrder Key Value := .asListed

namespace Loader

/-- The values that the program starts with. -/
def standardMembers : Members :=
  [("render", .table
     [("config", .text "default"),
      ("template", .text "basic"),
      ("escape", .bool true),
      ("heading_levels", .list
        [.text "section", .text "subsection", .text "subsubsection", .text "paragraph",
         .text "subparagraph"])]),
   ("batch", .table [("jobs", .integer 4)]),
   ("compile", .table
     [("engine", .text "xelatex"), ("runs", .integer 2), ("timeout_secs", .integer 120)]),
   ("images", .table [("timeout_secs", .integer 30)])]

/-- A file that is looked for when no other is named. -/
def localFile : Path := .ofString "mdtex.toml"

/-- The loader with one more file, which has to be there. -/
def withFile (loader : Loader) (path : Path) : Loader :=
  { loader with layers := loader.layers ++ [⟨path, true⟩] }

/-- The loader with one more file, which may be missing. -/
def withOptionalFile (loader : Loader) (path : Path) : Loader :=
  { loader with layers := loader.layers ++ [⟨path, false⟩] }

/-- The loader with one more value, if a text spells a key for it; one that the key had is gone. -/
def setOverride (loader : Loader) (key : String) (value : Value) : Except SettingsFault Loader :=
  match Key.ofText? key with
  | some found => .ok { loader with overrides := loader.overrides.insert found value }
  | none => .error .badKey

/-- The members that a layer sets; a file that may be missing then sets none. -/
def readLayer (layer : Layer) : Task (Except SettingsFault Members) := do
  match ← readFile (some .toml) layer.path with
  | .ok members => return .ok members
  | .error .malformed => return .error (.malformed layer.path.text)
  | .error .missing =>
    return if layer.required then .error (.missing layer.path.text) else .ok []

/-- The layers laid over a value one after another. -/
def layLayers (order : EntryOrder String Value) :
    List Layer → Value → Task (Except SettingsFault Value)
  | [], root => .done (.ok root)
  | layer :: rest, root => do
    -- The first layer with a fault ends the work.
    match ← readLayer layer with
    | .error fault => return .error fault
    | .ok members => layLayers order rest (setAll root (members.arranged order))

/-- The settings, with the maps gone through in an order. -/
def build (loader : Loader) (order : LayingOrder := {}) :
    Task (Except SettingsFault Settings) := do
  let start := setAll (.table []) (standardMembers.arranged order.tables)
  match ← layLayers order.tables loader.layers start with
  | .error fault => return .error fault
  | .ok root =>
    let entries := order.overrides.arrange loader.overrides.entries
    return Settings.ofValue <|
      entries.foldl (fun acc entry => entry.1.set acc (entry.2.arranged order.tables)) root

end Loader

end Manuscript
