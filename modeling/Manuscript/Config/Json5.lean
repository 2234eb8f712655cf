import Manuscript.Config.Reader
import Manuscript.Text.Search
import Manuscript.Unicode.Letters

/-!
Configurations in JSON5: JSON with comments, keys and texts in either quotes, keys without quotes,
and more ways to write a number.
-/

namespace Manuscript.Config.Json5

/-- A character that ends a line. -/
def endsLine (c : Char) : Bool := c = '\n' || c = '\r' || c = '\u2028' || c = '\u2029'

/-- A character that may stand between any two parts. -/
def isBlank (c : Char) : Bool :=
  endsLine c || c = '\t' || c = '\x0b' || c = '\x0c' || c = '\ufeff' ||
    Unicode.spaceSeparators.has c

/-- Comments of two kinds may stand wherever blanks may. -/
def spacing : Spacing := ⟨isBlank, endsLine, false⟩

/-- Reads the four digits of an escape. -/
def unit? : Reader Nat := fun text =>
  let digits := text.take 4
  if digits.length = 4 ∧ digits.all (isDigitIn 16) then some (inBase 16 digits, text.drop 4)
  else none

/--
Reads an escape behind its letter; two that name the halves of a pair name one character. The bits
of the halves are laid over the first code point that needs a pair and not added to it, so that a
pair of an even plane names a character of the plane before it.
-/
def named? : Reader Char := fun text => do
  let (first, behind) ← unit? text
  if 0xd800 ≤ first ∧ first < 0xdc00 then
    let more ← afterStart? ['\\', 'u'] behind
    let (second, final) ← unit? more
    if 0xdc00 ≤ second ∧ second < 0xe000 then
      return (Char.ofNat ((first - 0xd800) <<< 10 ||| (second - 0xdc00) ||| 0x10000), final)
    else none
  else if 0xdc00 ≤ first ∧ first < 0xe000 then none
  else return (Char.ofNat first, behind)

/-- Reads an escape behind its backslash. A line end stands for nothing. -/
def escape? : Reader (List Char)
  | [] => none
  | '\r' :: '\n' :: rest => some ([], rest)
  | c :: rest =>
    if endsLine c then some ([], rest)
    else if c = 'u' then (named? rest).map fun (found, after) => ([found], after)
    else if c = 'x' then
      if rest.length < 2 then none
      else (namedChar? (rest.take 2)).map fun found => ([found], rest.drop 2)
    else if c = 'v' then some (['\x0b'], rest)
    else if c = '0' then some (['\x00'], rest)
    -- No other digit may follow a backslash.
    else if c.isDigit then none
    -- What has no meaning of its own stands for itself.
    else some ([(Json.simpleEscape? c).getD c], rest)

/-- The rest of a text up to its quote; the bound limits its length. -/
def textTail (quote : Char) : Nat → Reader (List Char)
  | 0, _ => none
  | _, [] => none
  | bound + 1, c :: rest =>
    if c = quote then some ([], rest)
    -- A line end inside needs a backslash in front.
    else if endsLine c then none
    else do
      let (found, behind) ← if c = '\\' then escape? rest else some ([c], rest)
      let (more, final) ← textTail quote bound behind
      return (found ++ more, final)

/-- Reads a text in quotes. -/
def text? : Reader String := fun text =>
  match text with
  | [] => none
  | c :: rest =>
    if c = '"' ∨ c = '\'' then
      (textTail c (rest.length + 1) rest).map fun (found, final) => (String.ofList found, final)
    else none

/-- A character that may start a key without quotes. -/
def startsName (c : Char) : Bool := c = '$' || c = '_' || c.isAlpha || Unicode.letters.has c

/-- A character that may stand in a key without quotes. -/
def isInName (c : Char) : Bool :=
  startsName c || c.isDigit || c = '\u200c' || c = '\u200d' || Unicode.joined.has c

/-- The rest of a key without quotes. Escapes count in it; the bound limits its length. -/
def nameTail (isWanted : Char → Bool) : Nat → Reader (List Char)
  | 0, text => some ([], text)
  | bound + 1, text =>
    match text with
    | [] => some ([], [])
    -- An escape may name any character, also one that may not stand in a name.
    | '\\' :: 'u' :: rest => do
      let (found, behind) ← named? rest
      let (more, final) ← nameTail isInName bound behind
      return (found :: more, final)
    | c :: rest =>
      if isWanted c then
        (nameTail isInName bound rest).map fun (more, final) => (c :: more, final)
      else some ([], c :: rest)

/-- Reads a key. -/
def key? : Reader String := fun text =>
  (text? text).or <|
    (nameTail startsName (text.length + 1) text).bind fun (found, final) =>
      if found.isEmpty then none else some (String.ofList found, final)

/-- Reads the exponent of a number, which may be missing. -/
def exponent (text : List Char) : Option Int × List Char :=
  match text with
  | [] => (none, [])
  | c :: rest =>
    let (isNegative, unsigned) := sign rest
    let digits := unsigned.takeWhile Char.isDigit
    if (c = 'e' ∨ c = 'E') ∧ !digits.isEmpty then
      (some (if isNegative then -(inBase 10 digits : Int) else inBase 10 digits),
        unsigned.drop digits.length)
    else (none, text)

/--
Reads a number in decimal digits: an integer of 64 bits, or a finite number with a point or an
exponent.
-/
def decimal? (isNegative : Bool) : Reader Value := fun text =>
  let whole :=
    match text with
    -- A zero in front is the whole part.
    | '0' :: _ => ['0']
    | _ => text.takeWhile Char.isDigit
  let (part?, behind) : Option (List Char) × List Char :=
    match text.drop whole.length with
    | '.' :: rest => (some (rest.takeWhile Char.isDigit), rest.dropWhile Char.isDigit)
    | rest => (none, rest)
  let part := part?.getD []
  let (power?, final) := exponent behind
  -- A point alone is no number.
  if whole.isEmpty ∧ part.isEmpty then none
  else if part?.isNone ∧ power?.isNone then
    let number : Int := if isNegative then -(inBase 10 whole : Int) else inBase 10 whole
    -- Integers do not turn into floats where 64 bits end.
    if isWord number then some (.integer number, final) else none
  else
    let places := power?.getD 0 - part.length
    match Floating.ofDecimal isNegative (inBase 10 (whole ++ part)) places with
    | .infinite _ => none
    | number => some (.float number, final)

/-- Reads a hexadecimal number of 32 bits. -/
def hexadecimal? : Reader Value := fun text =>
  let digits := text.takeWhile (isDigitIn 16)
  if digits.isEmpty ∨ 0xffffffff < inBase 16 digits then none
  else some (.integer (inBase 16 digits), text.drop digits.length)

/-- Reads a number. Only decimal ones may have a plus, and hexadecimal ones have no sign at all. -/
def number? : Reader Value := fun text =>
  let (isNegative, unsigned) := sign text
  -- Words take a minus alone.
  let hasPlus := text.head? = some '+'
  let special (word : String) (number : Floating) : Option (Value × List Char) :=
    if hasPlus then none
    else (afterStart? word.toList unsigned).map fun rest => (.float number, rest)
  match text with
  | '0' :: 'x' :: rest => hexadecimal? rest
  | '0' :: 'X' :: rest => hexadecimal? rest
  | _ =>
    (special "Infinity" (.infinite isNegative)).or
      ((special "NaN" .notANumber).or (decimal? isNegative unsigned))

/-- Reads a word that stands for a value. -/
def word? : Reader Value := fun text =>
  let named (word : String) (value : Value) : Option (Value × List Char) :=
    (afterStart? word.toList text).map fun rest => (value, rest)
  (named "null" .null).or ((named "true" (.bool true)).or (named "false" (.bool false)))

/-- Reads a value; the bound limits how deeply values may be nested. -/
def value? : Nat → Reader Value
  | 0, _ => none
  | bound + 1, text =>
    match text with
    | '[' :: rest =>
      (spacing.items? ']' (value? bound) rest).map fun (items, final) => (.list items, final)
    | '\x7b' :: rest =>
      (spacing.items? '\x7d' (spacing.member? key? (value? bound)) rest).map fun (members, final) =>
        (.ofMembers members, final)
    | _ =>
      ((text? text).map fun (found, final) => (Value.text found, final)).or
        ((word? text).or (number? text))

/-- The members that a document sets. -/
def read? (text : List Char) : Option Members := spacing.document? (value? (text.length + 1)) text

end Manuscript.Config.Json5
