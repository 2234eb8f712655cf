import Manuscript.Number.Floating

/-! The values of configuration files, whatever format they are written in. -/

namespace Manuscript.Config

/-- A value of a configuration; of two members with one key the first counts. -/
inductive Value where
  | null
  | bool (b : Bool)
  | integer (n : Int)
  | float (x : Floating)
  | text (s : String)
  | list (items : List Value)
  | table (members : List (String × Value))

instance : Inhabited Value := ⟨.null⟩

/-- The members of a table. -/
abbrev Members := List (String × Value)

namespace Members

/-- The members with one set, in the place of one that has its key. -/
def set (members : Members) (key : String) (value : Value) : Members :=
  if members.any (·.1 = key) then
    members.map fun member => if member.1 = key then (key, value) else member
  else members ++ [(key, value)]

end Members

namespace Value

/-- The members of a value that is a table, and none of any other. -/
def members : Value → Members
  | .table members => members
  | _ => []

/-- A value is a table. -/
def isTable : Value → Bool
  | .table _ => true
  | _ => false

/-- The text that a value stands for where a text is wanted. -/
def text? : Value → Option String
  | .text s => some s
  | .bool b => some (if b then "true" else "false")
  | .integer n => some (toString n)
  | .float x => some x.text
  | .null | .list _ | .table _ => none

end Value

/-- A least and a greatest integer of 64 bits. -/
def isWord (n : Int) : Bool := -0x8000000000000000 ≤ n && n ≤ 0x7fffffffffffffff

end Manuscript.Config
