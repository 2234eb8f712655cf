import Manuscript.Config.Yaml.Cursor
import Manuscript.Text.Search

/-!
Tags, which say what kind of value a scalar is, and the directives that give handles a meaning.
-/

namespace Manuscript.Config.Yaml

/-- A character of an address. -/
def isAddressChar (c : Char) : Bool :=
  isWordChar c || "#;/?:@&=+$,.!~*'()[]%".toList.contains c

/-- A character of a tag behind its handle. -/
def isTagChar (c : Char) : Bool := isAddressChar c && !isFlowMark c && c ≠ '!'

/--
A character given by its bytes in hexadecimal digits behind percent signs, and what follows it. Of
two bytes the first one counts 256 times.
-/
def percentChar? (text : List Char) : Option (Char × List Char) :=
  let byte? (text : List Char) : Option Nat :=
    match text with
    | '%' :: a :: b :: _ => if [a, b].all (isDigitIn 16) then some (inBase 16 [a, b]) else none
    | _ => none
  (byte? text).bind fun first =>
    if first < 0x80 then some (Char.ofNat first, text.drop 3)
    else
      (byte? (text.drop 3)).bind fun second =>
        -- Longer characters do not fit, and neither does half a pair.
        if 0xc0 ≤ first ∧ first < 0xd8 ∧ 0x80 ≤ second ∧ second < 0xc0 then
          some (Char.ofNat (first * 256 + second), text.drop 6)
        else none

/-- The characters of an address that are wanted, and what follows them. -/
def address? (isWanted : Char → Bool) : Nat → List Char → Option (List Char × List Char)
  | 0, text => some ([], text)
  | bound + 1, text =>
    match text with
    | [] => some ([], [])
    | c :: rest =>
      if !isWanted c then some ([], text)
      else do
        let (found, behind) ← if c = '%' then percentChar? text else some (c, rest)
        let (more, final) ← address? isWanted bound behind
        return (found :: more, final)

/-- A tag: a handle and what stands behind it. -/
structure Tag where
  handle : List Char
  suffix : List Char

/-- The handle of a tag, with the mark that ends it if there is one. -/
def handleOf (text : List Char) : List Char :=
  match text with
  | '!' :: rest =>
    let word := rest.takeWhile isWordChar
    if (rest.drop word.length).head? = some '!' then '!' :: word ++ ['!'] else '!' :: word
  | _ => []

/-- A handle stands between two marks. -/
def isFullHandle (handle : List Char) : Bool := 2 ≤ handle.length && handle.getLast? = some '!'

/-- The tag at the front of a text, and what follows it. -/
def tagOf? (text : List Char) : Option (Tag × List Char) :=
  match text with
  | '!' :: '<' :: rest => do
    let (address, behind) ← address? isAddressChar (rest.length + 1) rest
    let final ← afterStart? ['>'] behind
    return (⟨[], address⟩, final)
  | _ => do
    let handle := handleOf text
    let behind := text.drop handle.length
    let (suffix, final) ← address? isTagChar (behind.length + 1) behind
    if isFullHandle handle then
      -- Something has to follow a handle between marks.
      if suffix.isEmpty then none else return (⟨handle, suffix⟩, final)
    else
      -- What follows a mark that stands alone is a part of the tag.
      match handle.drop 1 ++ suffix with
      | [] => return (⟨[], ['!']⟩, final)
      | whole => return (⟨['!'], whole⟩, final)

/-- A tag at a cursor, and the cursor behind it. -/
def tag? (inBraces : Bool) (cursor : Cursor) : Option (Tag × Cursor) := do
  let (tag, rest) ← tagOf? cursor.rest
  -- A tag is set off from what follows it.
  if endsWord rest ∨ (inBraces ∧ rest.head?.any isFlowMark) then
    return (tag, cursor.pass (cursor.rest.length - rest.length))
  else none

/-- What a line in front of a document says. -/
inductive Directive where
  | version
  /-- A handle stands for the start of an address. -/
  | handle (handle start : List Char)

/-- A version: two numbers of at most nine digits with a point between them; what follows it. -/
def afterVersion? (text : List Char) : Option (List Char) :=
  let number? (text : List Char) : Option (List Char) :=
    let digits := text.takeWhile Char.isDigit
    if digits.isEmpty ∨ 9 < digits.length then none else some (text.drop digits.length)
  (number? (text.dropWhile isBlank)).bind fun behind =>
    (afterStart? ['.'] behind).bind number?

/-- What a handle stands for, and what follows that. -/
def handleMeaning? (text : List Char) : Option (Directive × List Char) := do
  let start := text.dropWhile isBlank
  let handle := handleOf start
  -- A handle with a word in it needs both of its marks.
  guard (handle = ['!'] ∨ isFullHandle handle)
  let meaning := (start.drop handle.length).dropWhile isBlank
  -- The first character may be the mark of a tag.
  let (first, behind) ←
    match meaning with
    | '!' :: rest => some (['!'], rest)
    | c :: _ => if isTagChar c then some ([], meaning) else none
    | [] => none
  let (more, final) ← address? isAddressChar (behind.length + 1) behind
  guard (endsWord final)
  return (.handle handle (first ++ more), final)

/--
A directive at a cursor, and the cursor behind its line. One that is not known gives the empty
handle no meaning of its own.
-/
def directive? (cursor : Cursor) : Option (Directive × Cursor) := do
  let behind := cursor.rest.drop 1
  let name := behind.takeWhile isWordChar
  let text := behind.drop name.length
  guard (!name.isEmpty && endsWord text)
  let (found, rest) ←
    if name = "YAML".toList then (afterVersion? text).map fun rest => (Directive.version, rest)
    else if name = "TAG".toList then handleMeaning? text
    else some (Directive.handle [] [], text.dropWhile fun c => !isBreak c)
  let final ← (cursor.pass (cursor.rest.length - rest.length)).lineEnd?
  return (found, final.nextLine)

end Manuscript.Config.Yaml
