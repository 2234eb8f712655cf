import Manuscript.Template.Set

/-! Arguments that give a construct another template. -/

namespace Manuscript.CommandLine

/-- What an argument starts with that gives a template. -/
def extraStarts : List String := ["--extra-", "--extras-"]

/-- The key in an argument that gives a template. -/
def extraKey? (argument : String) : Option String :=
  (extraStarts.findSome? fun start => afterStart? start.toList argument.toList).map String.ofList

/-- Arguments taken apart: those that give templates, each with its template, and all others. -/
structure Extras where
  /-- The arguments that give no template. -/
  others : List String := []
  /-- The templates by their keys. -/
  templates : ConfigMap := []
  deriving DecidableEq

namespace Extras

/-- One more argument that gives no template. -/
def keep (found : Extras) (argument : String) : Extras :=
  { found with others := found.others ++ [argument] }

/-- One more template; of two for one key the last counts. -/
def give (found : Extras) (key template : String) : Extras :=
  { found with templates := found.templates.set key template }

end Extras

/-- What is said of an argument that gives no template though it ought to. -/
def missingTemplate (argument : String) : String := argument ++ " needs a template value"

/-- Takes arguments apart behind others that were taken apart already. -/
def takeMore (found : Extras) : List String → Except String Extras
  | [] => .ok found
  -- Nothing follows the last argument.
  | [argument] =>
    match extraKey? argument with
    | some _ => .error (missingTemplate argument)
    | none => .ok (found.keep argument)
  | argument :: next :: rest =>
    match extraKey? argument with
    -- The template may itself look like such an argument.
    | some key => takeMore (found.give key next) rest
    | none => takeMore (found.keep argument) (next :: rest)

/--
Takes arguments apart. The template is the argument that follows, whatever it looks like; the
result is an error if none follows.
-/
def takeExtras (arguments : List String) : Except String Extras := takeMore {} arguments

/-- The construct that a key names; dashes may stand for underscores. -/
def constructOf? (key : String) : Option Construct :=
  Construct.ofKey? (String.ofList (key.toList.map fun c => if c = '-' then '_' else c))

/-- What is said of a key that names no construct. -/
def unknownConstruct (key : String) : String :=
  "Unknown construct '" ++ key ++ "' in --extra-" ++ key ++ " (see \x60mdtex list\x60)"

/--
The templates by construct, from those by key. The keys are gone through one after another; of two
for one construct the last counts.
-/
def overridesOf (templates : List (String × String)) : Except String ConfigMap :=
  templates.foldlM (fun map entry =>
    match constructOf? entry.1 with
    | some construct => .ok (map.set construct.key entry.2)
    | none => .error (unknownConstruct entry.1)) []

end Manuscript.CommandLine
