import Manuscript.Config.Reader
import Manuscript.Text.Search

/-!
Configurations in object notation with names: maps with keys that are texts, structures with fields,
sequences, options and scalars.
-/

namespace Manuscript.Config.Ron

/-- Comments of two kinds may stand wherever blanks may; those that stars close may be nested. -/
def spacing : Spacing :=
  ⟨fun c => c = ' ' || c = '\t' || c = '\n' || c = '\r', fun c => c = '\n', true⟩

/-- A character that may start a name. -/
def startsName (c : Char) : Bool := c = '_' || c.isAlpha

/-- A character that may stand in a name. -/
def isInName (c : Char) : Bool := startsName c || c.isDigit

/-- A character that may stand in a name with a mark in front. -/
def isInMarkedName (c : Char) : Bool := isInName c || c = '.' || c = '+' || c = '-'

/-- Reads an escape behind its backslash. -/
def escape? : Reader Char
  | [] => none
  | 'x' :: rest =>
    if rest.length < 2 then none
    else (namedChar? (rest.take 2)).map fun found => (found, rest.drop 2)
  | 'u' :: '\x7b' :: rest =>
    let digits := rest.takeWhile (isDigitIn 16)
    match rest.drop digits.length with
    | '\x7d' :: final =>
      -- Six digits are enough for any character.
      if digits.isEmpty ∨ 6 < digits.length then none
      else (namedChar? digits).map fun found => (found, final)
    | _ => none
  | c :: rest =>
    let meant : Option Char :=
      match c with
      | '\'' | '"' | '\\' => some c
      | 'n' => some '\n'
      | 'r' => some '\r'
      | 't' => some '\t'
      | _ => none
    meant.map fun found => (found, rest)

/-- The rest of a text up to its quote; the bound limits its length. -/
def textTail : Nat → Reader (List Char)
  | 0, _ => none
  | _, [] => none
  | bound + 1, c :: rest =>
    if c = '"' then some ([], rest)
    else do
      -- Line ends may stand in a text as they are.
      let (found, behind) ← if c = '\\' then escape? rest else some (c, rest)
      let (more, final) ← textTail bound behind
      return (found :: more, final)

/-- Reads a text without escapes behind its first letter: as many marks close it as open it. -/
def rawText? : Reader (List Char) := fun text =>
  let marks := text.takeWhile (· = '#')
  match text.drop marks.length with
  | '"' :: rest => cutAt? ('"' :: marks) rest
  | _ => none

/-- Reads a character in quotes. -/
def char? : Reader (List Char)
  | '\'' :: '\\' :: rest =>
    match escape? rest with
    | some (found, '\'' :: final) => some ([found], final)
    | _ => none
  -- A quote has to be escaped even between quotes.
  | '\'' :: c :: '\'' :: final => if c = '\'' then none else some ([c], final)
  | _ => none

/-- Reads a text or a character, either of which stands for a text. -/
def text? : Reader String := fun text =>
  let found :=
    match text with
    | '"' :: rest => textTail (rest.length + 1) rest
    | 'r' :: rest => rawText? rest
    | _ => char? text
  found.map fun (chars, final) => (String.ofList chars, final)

/-- Reads a name. -/
def name? : Reader String := fun text =>
  let upTo (isWanted : Char → Bool) (text : List Char) : Option (String × List Char) :=
    let word := text.takeWhile isWanted
    if word.isEmpty then none else some (String.ofList word, text.drop word.length)
  match text with
  | [] => none
  | 'r' :: '#' :: rest => upTo isInMarkedName rest
  | c :: _ => if startsName c then upTo isInName text else none

/--
Reads an integer in a base, in whose digits underscores may stand. An integer that 64 bits do not
hold is written in decimal digits alone; one without a sign may use all of the bits.
-/
def based? (sign? : Option Char) (base : Nat) : Reader Value := fun text =>
  let isNegative := sign? = some '-'
  let digits := text.takeWhile fun c => isDigitIn base c || c = '_'
  let counting := digits.filter (· ≠ '_')
  let size := inBase base counting
  let isHeld :=
    if sign?.isNone then size ≤ 0xffffffffffffffff else isWord (if isNegative then -(size : Int) else size)
  if counting.isEmpty ∨ digits.head? = some '_' then none
  else if isHeld ∨ (base = 10 ∧ counting = digits) then
    some (wordOrFloat isNegative size, text.drop digits.length)
  else none

/-- A character that may stand in a number with a fraction or an exponent. -/
def isInFloat (c : Char) : Bool :=
  c.isDigit || c = '.' || c = 'e' || c = 'E' || c = '+' || c = '-' || c = '_'

/-- Reads a number. Of the words for numbers one may have a sign, which is a minus. -/
def number? : Reader Value := fun text =>
  let sign? := text.head?.filter fun c => c = '+' || c = '-'
  let isNegative := sign? = some '-'
  let unsigned := text.drop sign?.toList.length
  let written := unsigned.takeWhile isInFloat
  let plain : Option (Value × List Char) :=
    -- Without a point or an exponent it is an integer.
    if written.all fun c => c.isDigit || c = '_' then based? sign? 10 unsigned
    else (Floating.unsigned? isNegative written).map fun number =>
      (.float number, unsigned.drop written.length)
  match unsigned with
  | '0' :: 'x' :: rest => based? sign? 16 rest
  | '0' :: 'o' :: rest => based? sign? 8 rest
  | '0' :: 'b' :: rest => based? sign? 2 rest
  | _ =>
    -- Without its minus this word is read as a name.
    ((afterStart? "-inf".toList text).map fun rest => (.float (.infinite true), rest)).or plain

/-- A text starts with a name that a colon follows. -/
def startsField (text : List Char) : Bool :=
  match (name? text).bind fun found => spacing.skip? found.2 with
  | some (':' :: _) => true
  | _ => false

/-- Reads what parentheses hold, behind the opening one: fields, or a sequence. -/
def group? (value? : Reader Value) : Reader Value := fun text => do
  let inside ← spacing.skip? text
  -- The first part decides whether all of them are named.
  if startsField inside then
    let (members, final) ← spacing.items? ')' (spacing.member? name? value?) inside
    return (.ofMembers members, final)
  else
    let (items, final) ← spacing.items? ')' value? inside
    return (.list items, final)

/-- A text without the comma, and the blanks around it, that may follow the last item. -/
def skipComma? (text : List Char) : Option (List Char) := do
  match ← spacing.skip? text with
  | ',' :: rest => spacing.skip? rest
  | rest => some rest

/--
Reads what a name starts: a word that stands for a value, an option, or a structure. An option may
go without parentheses where that was asked for.
-/
def named? (bareSome : Bool) (value? : Reader Value) : Reader Value := fun text => do
  let (name, behind) ← name? text
  if name = "true" then return (.bool true, behind)
  else if name = "false" then return (.bool false, behind)
  else if name = "None" then return (.null, behind)
  else if name = "inf" then return (.float (.infinite false), behind)
  else if name = "NaN" then return (.float .notANumber, behind)
  else
    match ← spacing.skip? behind with
    | '(' :: rest =>
      if name = "Some" then
        let (value, after) ← value? (← spacing.skip? rest)
        match ← skipComma? after with
        | ')' :: final => return (value, final)
        | _ => none
      else group? value? rest
    | rest =>
      if name = "Some" then if bareSome then value? rest else none
      -- A structure without parts holds nothing.
      else return (.null, rest)

/-- Reads a value; the bound limits how deeply values may be nested. -/
def value? (bareSome : Bool) : Nat → Reader Value
  | 0, _ => none
  | bound + 1, text =>
    match text with
    -- The empty tuple holds nothing, while a named one is an empty list.
    | '(' :: ')' :: rest => some (.null, rest)
    | '(' :: rest => group? (value? bareSome bound) rest
    | '[' :: rest =>
      (spacing.items? ']' (value? bareSome bound) rest).map
        fun (items, final) => (.list items, final)
    | '\x7b' :: rest =>
      (spacing.items? '\x7d' (spacing.member? text? (value? bareSome bound)) rest).map
        fun (members, final) => (.ofMembers members, final)
    | _ =>
      -- One letter starts texts without escapes as well as names, so that texts are tried first.
      ((text? text).map fun (found, final) => (Value.text found, final)).or
        ((named? bareSome (value? bareSome bound) text).or (number? text))

/-- How deeply values may be nested. -/
def depth : Nat := 128

/-- What a document may ask for in front of its value. -/
def extensions : List String := ["unwrap_newtypes", "implicit_some", "unwrap_variant_newtypes"]

/-- A text behind one of several marks and the blanks that follow it, one mark after another. -/
def afterMarks? : List String → List Char → Option (List Char)
  | [], text => some text
  | mark :: marks, text => do
    let rest ← afterStart? mark.toList text
    afterMarks? marks (← spacing.skip? rest)

/-- Reads the extensions that are asked for, commas between them; at least one is. -/
def asked? : Nat → Reader (List String)
  | 0, _ => none
  | bound + 1, text => do
    let (name, behind) ← name? text
    guard (extensions.contains name)
    let rest ← skipComma? behind
    -- With one more name behind it, a comma has to stand in between.
    let separated := (← spacing.skip? behind).head? = some ','
    if rest.head?.any isInName then
      if separated then
        let (names, final) ← asked? bound rest
        return (name :: names, final)
      else none
    else return ([name], rest)

/-- Reads the attributes in front of a document: the extensions that they ask for. -/
def attributes? : Nat → Reader (List String)
  | 0, text => some ([], text)
  | bound + 1, text =>
    match text with
    | '#' :: _ => do
      let inside ← afterMarks? ["#", "!", "[", "enable", "("] text
      let (names, behind) ← asked? (inside.length + 1) inside
      let rest ← afterMarks? [")", "]"] behind
      let (more, final) ← attributes? bound rest
      return (names ++ more, final)
    | _ => some ([], text)

/-- The members that a document sets. -/
def read? (text : List Char) : Option Members := do
  let (asked, rest) ← attributes? (text.length + 1) (← spacing.skip? text)
  spacing.document? (value? (asked.contains "implicit_some") depth) rest

end Manuscript.Config.Ron
