import Manuscript.Config.Value
import Manuscript.Json.Scan

/-!
Readers take what they read off the front of a text. Here stand those that several formats of
configurations share: numbers in a base, comments between slashes, and items between commas.
-/

namespace Manuscript.Config

/-- Reads from the front of a text. -/
abbrev Reader (α : Type) := List Char → Option (α × List Char)

/-- The number that digits stand for in a base. -/
def inBase (base : Nat) (digits : List Char) : Nat :=
  digits.foldl (fun acc c => acc * base + (Json.hexValue? c).getD 0) 0

/-- A character is a digit of a base. -/
def isDigitIn (base : Nat) (c : Char) : Bool := (Json.hexValue? c).any (· < base)

/-- The character that hexadecimal digits name. -/
def namedChar? (digits : List Char) : Option Char :=
  if digits.all (isDigitIn 16) ∧ (inBase 16 digits).isValidChar then
    some (Char.ofNat (inBase 16 digits))
  else none

/-- A sign and what follows it. -/
def sign (text : List Char) : Bool × List Char :=
  match text with
  | '-' :: rest => (true, rest)
  | '+' :: rest => (false, rest)
  | _ => (false, text)

/-- A number as a value: an integer if 64 bits hold it. -/
def wordOrFloat (isNegative : Bool) (size : Nat) : Value :=
  let number : Int := if isNegative then -(size : Int) else size
  if isWord number then .integer number else .float (.ofDecimal isNegative size 0)

/-- The rest behind a comment that stars close; such comments may be nested or not. -/
def afterComment? (nested : Bool) : Nat → List Char → Option (List Char)
  | _, [] => none
  | depth, [_] => if depth = 0 then some [] else none
  | depth, c :: d :: rest =>
    -- Only the innermost comment is closed.
    if c = '*' ∧ d = '/' then
      match depth with
      | 0 | 1 => some rest
      | outer + 1 => afterComment? nested outer rest
    else if nested ∧ c = '/' ∧ d = '*' then afterComment? nested (depth + 1) rest
    else afterComment? nested depth (d :: rest)

/-- How blanks and comments of a format look. -/
structure Spacing where
  /-- A character that may stand between any two parts. -/
  isBlank : Char → Bool
  /-- A character that ends a comment of one line. -/
  endsLine : Char → Bool
  /-- Comments that stars close may hold further ones. -/
  nested : Bool

namespace Spacing

/-- Takes blanks and comments off the front; the bound limits how many comments there may be. -/
def skipUpTo (spacing : Spacing) : Nat → List Char → Option (List Char)
  | 0, text => some text
  | bound + 1, text =>
    match text.dropWhile spacing.isBlank with
    | '/' :: '/' :: rest => spacing.skipUpTo bound (rest.dropWhile fun c => !spacing.endsLine c)
    | '/' :: '*' :: rest => (afterComment? spacing.nested 1 rest).bind (spacing.skipUpTo bound)
    | behind => some behind

/-- A text without the blanks and comments at its front; none if a comment is left open. -/
def skip? (spacing : Spacing) (text : List Char) : Option (List Char) :=
  spacing.skipUpTo (text.length + 1) text

/-- Reads items up to a closing mark. Commas stand between them, and one may follow the last. -/
def itemsUpTo {α : Type} (spacing : Spacing) (close : Char) (item? : Reader α) :
    Nat → Reader (List α)
  | 0, _ => none
  | bound + 1, text => do
    match ← spacing.skip? text with
    | [] => none
    | c :: rest =>
      -- The closing mark is looked for first, so that a comma may stand in front of it.
      if c = close then return ([], rest)
      else
        let (item, behind) ← item? (c :: rest)
        match ← spacing.skip? behind with
        | [] => none
        | mark :: more =>
          if mark = close then return ([item], more)
          else if mark = ',' then
            let (items, final) ← spacing.itemsUpTo close item? bound more
            return (item :: items, final)
          else none

/-- Reads items behind an opening mark. -/
def items? {α : Type} (spacing : Spacing) (close : Char) (item? : Reader α) : Reader (List α) :=
  fun text => spacing.itemsUpTo close item? (text.length + 1) text

/-- Reads a key, a colon and a value. -/
def member? (spacing : Spacing) (key? : Reader String) (value? : Reader Value) :
    Reader (String × Value) := fun text => do
  let (key, behind) ← key? text
  match ← spacing.skip? behind with
  | ':' :: more =>
    let (value, final) ← value? (← spacing.skip? more)
    return ((key, value), final)
  | _ => none

/-- The members of a document that holds one table and nothing else. -/
def document? (spacing : Spacing) (value? : Reader Value) (text : List Char) : Option Members := do
  let (value, behind) ← value? (← spacing.skip? text)
  match value, ← spacing.skip? behind with
  | .table members, [] => some members
  | _, _ => none

end Spacing

/-- A table of members, of which the last with a key counts. -/
def Value.ofMembers (members : List (String × Value)) : Value :=
  .table (members.foldl (fun acc member => Members.set acc member.1 member.2) [])

end Manuscript.Config
