import Manuscript.Config.Value
import Manuscript.EntryOrder
import Manuscript.Unicode.Lowercase

/-!
Keys of configurations, which may lead through tables and lists, and values laid over others: the
members of tables are laid over one by one, and any other value replaces what was there.
-/

namespace Manuscript.Config

section Arranged

variable (order : EntryOrder String Value)

mutual

/-- A value with its tables in the order in which they are gone through to be laid over others. -/
def Value.arranged : Value → Value
  | .table members => .table (order.arrange (arrangedAll members))
  -- A list is laid over others as a whole, so that it stays as it is with all that it holds.
  | value => value

/-- Members with the tables in their values in the order in which they are gone through. -/
def arrangedAll : List (String × Value) → List (String × Value)
  | [] => []
  | (key, value) :: rest => (key, value.arranged) :: arrangedAll rest

end

/-- Members in the order in which they are gone through, with the tables in their values. -/
def Members.arranged (members : Members) : Members := order.arrange (arrangedAll order members)

end Arranged

mutual

/-- A value laid over another one. -/
def overlay (below : Value) : Value → Value
  | .table members => overlayAll below members
  | value => value

/-- Members laid over a value one after another; their keys count in lower case. -/
def overlayAll (below : Value) : List (String × Value) → Value
  | [] => below
  | (key, value) :: rest =>
    let name := Unicode.lower key
    -- A member that is missing is an empty table to what is laid over it.
    let held := (below.members.lookup name).getD (.table [])
    overlayAll (.table (Members.set below.members name (overlay held value))) rest

end

/-- Where a value of a configuration is. -/
inductive Key where
  /-- A member of the whole. -/
  | name (name : String)
  /-- A member of what another key leads to. -/
  | member (outer : Key) (name : String)
  /-- An item of what another key leads to; a negative index counts from the end. -/
  | item (outer : Key) (index : Int)
  deriving DecidableEq

namespace Key

/-- A character of a name. -/
def isNameChar (c : Char) : Bool := c.isAlphanum || c = ' ' || c = '_' || c = '-'

/-- A name at the front of a text. -/
def name? (text : List Char) : Option (String × List Char) :=
  let word := text.takeWhile isNameChar
  if word.isEmpty then none else some (String.ofList word, text.drop word.length)

/-- An index in brackets, behind the opening one. -/
def index? (text : List Char) : Option (Int × List Char) :=
  let isBlank (c : Char) : Bool := c = ' ' || c = '\t'
  let inside := text.dropWhile isBlank
  let (isNegative, unsigned) : Bool × List Char :=
    match inside with
    | '-' :: rest => (true, rest)
    | _ => (false, inside)
  let digits := unsigned.takeWhile Char.isDigit
  let size := Floating.numberOf digits
  match (unsigned.drop digits.length).dropWhile isBlank with
  | ']' :: rest =>
    if digits.isEmpty ∨ !isWord (if isNegative then -(size : Int) else size) then none
    else some (if isNegative then -(size : Int) else size, rest)
  | _ => none

/-- A key that goes on with further steps; the bound limits how many there may be. -/
def more? : Nat → Key → List Char → Option Key
  | _, key, [] => some key
  | 0, _, _ => none
  | bound + 1, key, '.' :: rest => do
    let (word, after) ← name? rest
    more? bound (.member key word) after
  | bound + 1, key, '[' :: rest => do
    let (index, after) ← index? rest
    more? bound (.item key index) after
  | _, _, _ => none

/-- The key that a text spells. -/
def ofText? (text : String) : Option Key := do
  let (word, rest) ← name? text.toList
  more? (rest.length + 1) (.name word) rest

/-- The items of a value that is a list, and none of any other. -/
def itemsOf : Value → List Value
  | .list items => items
  | _ => []

/-- The place of an item in a list of a length. -/
def place (index : Int) (length : Nat) : Nat :=
  if 0 ≤ index then index.toNat else length - index.natAbs

/-- Items with one changed; missing ones in front of it are null. -/
def changeItem (index : Int) (change : Value → Value) (items : List Value) : List Value :=
  let at_ := place index items.length
  -- A place behind the end makes the list longer, and one in front of the start is the start.
  let long := items ++ List.replicate (at_ + 1 - items.length) .null
  long.modify at_ change

/-- Members with one changed; it starts as null if there is none. -/
def changeMember (word : String) (change : Value → Value) (members : Members) : Members :=
  let key := Unicode.lower word
  members.set key (change ((members.lookup key).getD .null))

/--
Changes what a key leads to. What is in the way is replaced, and what is missing starts as null.
-/
def change (edit : Value → Value) : Key → Value → Value
  | .name word, root => .table (changeMember word edit root.members)
  | .member outer word, root =>
    change (fun held => .table (changeMember word edit held.members)) outer root
  | .item outer index, root =>
    change (fun held => .list (changeItem index edit (itemsOf held))) outer root

/-- A configuration with a value set where a key leads to. -/
def set (root : Value) (value : Value) : Key → Value
  | .name word => overlayAll root [(word, value)]
  | .member outer word =>
    change (fun held => overlayAll (.table held.members) [(word, value)]) outer root
  | .item outer index =>
    change (fun held => .list (changeItem index (fun _ => value) (itemsOf held))) outer root

end Key

/-- The members of a source set one after another; what spells no key is a name as it is. -/
def setAll (root : Value) (members : Members) : Value :=
  members.foldl
    (fun acc member => ((Key.ofText? member.1).getD (.name member.1)).set acc member.2) root

end Manuscript.Config
