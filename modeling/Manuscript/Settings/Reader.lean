import Manuscript.Config.Key
import Manuscript.Settings.Basic
import Manuscript.Unicode.Lowercase

/-! Settings read from the values of a configuration, which may be given in more than one kind. -/

namespace Manuscript

/-- Why settings cannot be read. -/
inductive SettingsFault where
  /-- A text spells no key. -/
  | badKey
  /-- There is no file of a name. -/
  | missing (name : String)
  /-- A file is malformed. -/
  | malformed (name : String)
  /-- A value is not of the kind that is wanted, nor stands for one. -/
  | badValue (kind : String)
  /-- A table or a list is not as it has to be. -/
  | badShape (kind : String)
  deriving DecidableEq

namespace SettingsFault

/-- What is printed for a fault. -/
def message : SettingsFault → String
  | .badKey => "invalid key"
  | .missing name => "configuration file \"" ++ name ++ "\" not found"
  | .malformed name => "configuration file \"" ++ name ++ "\" is malformed"
  | .badValue kind => "invalid type, expected " ++ kind
  | .badShape kind => "invalid value, expected " ++ kind

end SettingsFault

namespace Config.Value

/-- Words for yes. -/
def yesWords : List String := ["true", "on", "yes"]

/-- Words for no. -/
def noWords : List String := ["false", "off", "no"]

/-- The truth that a value stands for. -/
def truth : Value → Except SettingsFault Bool
  | .bool b => .ok b
  | .integer n => .ok (n ≠ 0)
  | .float x => .ok !x.isZero
  | .text s =>
    let word := Unicode.lower s
    -- Words count in any case.
    if word = "1" ∨ word ∈ yesWords then .ok true
    else if word = "0" ∨ word ∈ noWords then .ok false
    else .error (.badValue "a boolean")
  | .null | .list _ | .table _ => .error (.badValue "a boolean")

/-- The greatest number that counts may have. -/
def greatestCount : Nat := 0xffffffffffffffff

/-- The number that digits spell, behind a plus sign or not. -/
def countOfText? (text : List Char) : Option Nat :=
  let digits :=
    match text with
    | '+' :: rest => rest
    | _ => text
  if digits.isEmpty ∨ !digits.all Char.isDigit then none
  else
    let n := Floating.numberOf digits
    if n ≤ greatestCount then some n else none

/-- The count that a value stands for. -/
def count : Value → Except SettingsFault Nat
  | .bool b => .ok (if b then 1 else 0)
  | .integer n => if 0 ≤ n then .ok n.toNat else .error (.badValue "a count")
  -- What is out of range becomes the nearest count, and what is no number becomes zero.
  | .float x => .ok (x.roundTo greatestCount)
  | .text s =>
    let word := Unicode.lower s
    if word ∈ yesWords then .ok 1
    else if word ∈ noWords then .ok 0
    else
      match countOfText? s.toList with
      | some n => .ok n
      | none => .error (.badValue "a count")
  | .null | .list _ | .table _ => .error (.badValue "a count")

/-- The text that a value stands for. -/
def string (value : Value) : Except SettingsFault String :=
  match value.text? with
  | some written => .ok written
  | none => .error (.badValue "a string")

/-- The items of a list. -/
def items : Value → Except SettingsFault (List Value)
  | .list items => .ok items
  | _ => .error (.badShape "a sequence")

/-- The engine that a value names, by its name or as the only key of a table. -/
def engine (value : Value) : Except SettingsFault LatexEngine :=
  let named (name : String) : Except SettingsFault LatexEngine :=
    match LatexEngine.all.find? (·.name = Unicode.lower name) with
    | some engine => .ok engine
    | none => .error (.badShape "an engine")
  match value with
  | .text name => named name
  -- What the table holds under the name is not looked at.
  | .table [(name, _)] => named name
  | _ => .error (.badShape "an engine")

/-- The fields of a record: the members of a table, or the items of a list in their order. -/
def fields (names : List String) : Value → Except SettingsFault Members
  | .table members => .ok members
  | .list items => .ok (names.zip items)
  | _ => .error (.badShape "a table")

end Config.Value

namespace Settings

open Config

/-- A field that has to be there. -/
def field {α : Type} (read : Value → Except SettingsFault α) (fields : Members) (name : String) :
    Except SettingsFault α :=
  match fields.lookup name with
  | some value => read value
  | none => .error (.badShape ("the field " ++ name))

/-- A rule for image paths. -/
def imageRule (value : Value) : Except SettingsFault PathRule := do
  let fields ← value.fields ["from", "to"]
  return ⟨← field Value.string fields "from", ← field Value.string fields "to"⟩

/-- The rules for image paths; there need be none. -/
def imageRulesOf (fields : Members) : Except SettingsFault (List PathRule) :=
  match fields.lookup "image_rewrites" with
  | some value => do (← value.items).mapM imageRule
  | none => .ok []

/-- The settings that a configuration holds. -/
def ofValue (root : Value) : Except SettingsFault Settings := do
  -- The parts are read in this order, so that the first fault in it is the one that is told.
  let parts ← root.fields ["render", "batch", "compile", "images"]
  let render ←
    field (Value.fields ["config", "template", "escape", "heading_levels", "image_rewrites"])
      parts "render"
  let config ← field Value.string render "config"
  let template ← field Value.string render "template"
  let escape ← field Value.truth render "escape"
  let headingLevels ← (← field Value.items render "heading_levels").mapM Value.string
  let imageRules ← imageRulesOf render
  let batch ← field (Value.fields ["jobs"]) parts "batch"
  let jobs ← field Value.count batch "jobs"
  let compile ← field (Value.fields ["engine", "runs", "timeout_secs"]) parts "compile"
  let engine ← field Value.engine compile "engine"
  let runs ← field Value.count compile "runs"
  let passSeconds ← field Value.count compile "timeout_secs"
  let images ← field (Value.fields ["timeout_secs"]) parts "images"
  let imageSeconds ← field Value.count images "timeout_secs"
  return { config, template, escape, headingLevels, imageRules, jobs, engine, runs, passSeconds,
           imageSeconds }

end Settings

end Manuscript
