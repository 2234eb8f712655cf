import Manuscript.Config.File
import Manuscript.Template.Library.Configs
import Manuscript.Template.Library.Documents

/-!
Where templates come from. Whatever is missing or cannot be read is told in a warning, and the
nearest template that needs no file stands in for it.
-/

namespace Manuscript

/-- Where the templates of the constructs come from. -/
inductive ConfigSource where
  /-- A configuration that needs no file, or the path of a file. -/
  | named (name : String)
  /-- The configuration itself. -/
  | literal (map : ConfigMap)
  deriving DecidableEq

/-- Where the document around the body comes from. -/
inductive TemplateSource where
  /-- A document that needs no file, or the path of a file. -/
  | named (name : String)
  /-- The document itself. -/
  | literal (text : String)
  deriving DecidableEq

namespace ConfigSource

/-- What is said of a configuration that is not there. -/
def missingWarning (name : String) : String :=
  "config file " ++ name ++ " does not exist, using the default config"

/-- What is said of a configuration that cannot be used. -/
def faultyWarning (name reason : String) : String :=
  "failed to load config " ++ name ++ ": " ++ reason ++ "; using the default config"

/-- Why a configuration cannot be used, in words. -/
def reasonOf (name : String) : Config.SourceFault → String
  | .missing => "configuration file \"" ++ name ++ "\" not found"
  | .malformed => "the file is malformed"

/-- What is said of a configuration in which a member is no text. -/
def notTexts : String := "invalid type, expected a string"

/-- The flat configuration that a file holds, or why it holds none. -/
def readMap (name : String) : Task (Except String ConfigMap) := do
  match ← Config.readFile none (Path.ofString name) with
  | .error fault => return .error (reasonOf name fault)
  | .ok members =>
    -- One entry that is no text spoils the whole file.
    match Config.texts? (Config.setAll (.table []) members).members with
    | some texts => return .ok (ConfigMap.overlay [] texts)
    | none => return .error notTexts

/-- The configuration of a name. All but the one that others are laid over are laid over it. -/
def load (name : String) : Task ConfigMap := do
  -- This one is what the others are laid over.
  if name = Library.plainName then return Library.plain
  else
    match Library.config? name with
    | some map => return Library.plain.overlay map
    | none =>
      -- A name that nothing is known by is the path of a file.
      if ← Task.isPresent (Path.ofString name) then
        match ← readMap name with
        | .ok map => return Library.plain.overlay map
        | .error reason => .warn (faultyWarning name reason) (return Library.plain)
      else .warn (missingWarning name) (return Library.plain)

/-- The configuration of a source, with overrides laid over it last. -/
def resolve (source : ConfigSource) (overrides : ConfigMap) : Task ConfigMap := do
  match source with
  | .named name => return (← load name).overlay overrides
  | .literal map => return map.overlay overrides

/-- What is said of an entry that is no template of its construct. -/
def rejectedWarning (error : TemplateError) : String :=
  error.message ++ "; keeping the built-in template"

/-- The templates of a flat configuration, with a warning for each entry that is not used. -/
def templatesOf (map : ConfigMap) : Task TemplateSet := do
  -- Warnings come in the order of the keys, and the rest of the entries count all the same.
  let _ ← Task.each (fun error => .warn (rejectedWarning error) (.done ()))
    (TemplateSet.rejections map)
  return TemplateSet.ofMap map

/-- The templates of a source, with overrides laid over it. -/
def resolveTemplates (source : ConfigSource) (overrides : ConfigMap) : Task TemplateSet := do
  templatesOf (← source.resolve overrides)

end ConfigSource

namespace TemplateSource

/-- What is said of a document that is not there. -/
def missingWarning (name : String) : String :=
  "template file " ++ name ++ " does not exist, using the " ++ Library.basicName ++ " template"

/-- What is said of a document that cannot be read. -/
def unreadWarning (name reason : String) : String :=
  "failed to read template " ++ name ++ ": " ++ reason ++ ", using the built-in skeleton"

/-- The document of a text, or the skeleton if it has no place for the body. -/
def parsed (origin text : String) : Task DocumentTemplate :=
  match DocumentTemplate.parse text with
  | .ok document => .done document
  | .error error =>
    .warn (origin ++ ": " ++ error.message ++ ", using the built-in skeleton") (.done .skeleton)

/-- What a document is called that is given as it is. -/
def inlineName : String := "inline template"

/-- The document of a source. -/
def resolve : TemplateSource → Task DocumentTemplate
  | .literal text => parsed inlineName text
  | .named name => do
    match Library.document? name with
    | some text => parsed name text
    | none =>
      let path := Path.ofString name
      if ← Task.isPresent path then
        match ← Task.readText path with
        | .ok text => parsed name text
        | .error reason => .warn (unreadWarning name reason) (.done .skeleton)
      -- The plainest document that needs no file stands in for a missing one.
      else .warn (missingWarning name) (parsed Library.basicName Library.basic)

end TemplateSource

end Manuscript
