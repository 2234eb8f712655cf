import Manuscript.Config.Reader
import Manuscript.Json.Reader

/-! Configurations in JSON. -/

namespace Manuscript.Config

/-- A number as a value: an integer if 64 bits hold it. -/
def ofNumber : Json.Number → Value
  | .natural n => wordOrFloat false n
  | .negative size => .integer (-(size : Int))
  | .float isNegative size => .float (.finite isNegative size)

mutual

/-- A value of JSON as one of a configuration. -/
def ofJson : Json.Value → Value
  | .null => .null
  | .bool b => .bool b
  | .number n => ofNumber n
  | .string s => .text s
  | .array items => .list (ofItems items)
  | .object members => .table (ofMembers members)

/-- The items of a list. -/
def ofItems : List Json.Value → List Value
  | [] => []
  | item :: rest => ofJson item :: ofItems rest

/-- The members of an object. -/
def ofMembers : List (String × Json.Value) → List (String × Value)
  | [] => []
  | (key, value) :: rest => (key, ofJson value) :: ofMembers rest

end

/-- How deeply lists and objects may be nested. -/
def jsonDepth : Nat := 127

/-- The members that a document in JSON sets; it holds one object and nothing else. -/
def readJson? (text : List Char) : Option Members :=
  match Json.readValue jsonDepth text with
  | .error _ => none
  | .ok read =>
    if (Json.skipBlanks read.rest).isEmpty then
      match ofJson read.value with
      | .table members => some members
      | _ => none
    else none

end Manuscript.Config
