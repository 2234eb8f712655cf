import Manuscript.Number.Double

/-! The values of JSON. -/

namespace Manuscript.Json

/-- A number as it was read. -/
inductive Number where
  /-- A natural number of 64 bits. -/
  | natural (n : Nat)
  /-- A negative integer of 64 bits, given by its size. -/
  | negative (size : Nat)
  /-- Any other number, by its sign and its size. -/
  | float (isNegative : Bool) (size : Double)
  deriving DecidableEq

/-- A JSON value; the members of an object are in the order of their keys. -/
inductive Value where
  | null
  | bool (b : Bool)
  | number (n : Number)
  | string (s : String)
  | array (items : List Value)
  | object (members : List (String × Value))

/-- The members with one set: in the order of the keys, and a member of the same key replaced. -/
def insertMember {α : Type} (key : String) (value : α) : List (String × α) → List (String × α)
  | [] => [(key, value)]
  | (other, held) :: rest =>
    if key < other then (key, value) :: (other, held) :: rest
    else if key = other then (key, value) :: rest
    else (other, held) :: insertMember key value rest

end Manuscript.Json
