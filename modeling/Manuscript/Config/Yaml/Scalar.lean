import Manuscript.Config.Yaml.Tag

/-!
What scalars stand for. A plain text may stand for more than a text, and a tag may say for what.
-/

namespace Manuscript.Config.Yaml

/-- A value without parts. A real number is kept as it was written. -/
inductive Scalar where
  | null
  | bool (b : Bool)
  | integer (n : Int)
  | real (written : List Char)
  | text (content : List Char)
  deriving DecidableEq

/-- An integer of 64 bits in a base, with a sign if need be. -/
def wordIn? (base : Nat) (text : List Char) : Option Int :=
  let (isNegative, digits) := sign text
  if digits.isEmpty ∨ !digits.all (isDigitIn base) then none
  else
    let size := inBase base digits
    let n : Int := if isNegative then -(size : Int) else size
    if isWord n then some n else none

/-- The spellings of numbers that are none of the usual ones. -/
def dottedReals : List String :=
  [".inf", ".Inf", ".INF", "+.inf", "+.Inf", "+.INF", "-.inf", "-.Inf", "-.INF", ".nan", ".NAN"]

/-- A text spells a real number. -/
def isReal (text : List Char) : Bool :=
  dottedReals.any (·.toList = text) || (Floating.ofText? text).isSome

namespace Scalar

/-- The boolean that a word names. -/
def boolOf? (text : List Char) : Option Scalar :=
  if text = "true".toList then some (.bool true)
  else if text = "false".toList then some (.bool false)
  else none

/-- Nothing, by its names. -/
def nullOf? (text : List Char) : Option Scalar :=
  if text = ['~'] ∨ text = "null".toList then some .null else none

/-- The real number that a text spells. -/
def realOf? (text : List Char) : Option Scalar := if isReal text then some (.real text) else none

/-- What a plain text stands for. -/
def ofPlain (text : List Char) : Scalar :=
  let prefixed? : Option Int :=
    match text with
    | '0' :: 'x' :: digits => wordIn? 16 digits
    | '0' :: 'o' :: digits => wordIn? 8 digits
    -- A second sign may follow a plus.
    | '+' :: number => wordIn? 10 number
    | _ => none
  let integer? := (prefixed?.or (wordIn? 10 text)).map Scalar.integer
  -- Integers are tried first, and reals last.
  (integer?.or ((nullOf? text).or ((boolOf? text).or (realOf? text)))).getD (.text text)

/--
What a plain text under a tag stands for; a text that the tag does not fit stands for nothing.
-/
def ofTagged? (tag : Tag) (text : List Char) : Option Scalar :=
  -- Tags with another handle make texts.
  if tag.handle ≠ "tag:yaml.org,2002:".toList then some (.text text)
  else if tag.suffix = "bool".toList then boolOf? text
  else if tag.suffix = "int".toList then (wordIn? 10 text).map .integer
  else if tag.suffix = "float".toList then realOf? text
  else if tag.suffix = "null".toList then nullOf? text
  else some (.text text)

/-- The text that a scalar is as a key. -/
def keyText? : Scalar → Option String
  -- Null is no key.
  | .null => none
  | .bool b => some (if b then "true" else "false")
  | .integer n => some (toString n)
  | .real written => some (String.ofList written)
  | .text content => some (String.ofList content)

/-- The value that a scalar is. Some spellings of real numbers cannot be read as such. -/
def value? : Scalar → Option Value
  | .null => some .null
  | .bool b => some (.bool b)
  | .integer n => some (.integer n)
  | .real written => (Floating.ofText? written).map .float
  | .text content => some (.text (String.ofList content))

end Scalar

end Manuscript.Config.Yaml
