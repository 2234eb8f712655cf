import Manuscript.Config.Reader

/-! Places in a document, and what may be skipped at them: blanks, line ends and comments. -/

namespace Manuscript.Config.Yaml

/-- A line end. -/
def isBreak (c : Char) : Bool := c = '\n' || c = '\r'

/-- A space or a tab. -/
def isBlank (c : Char) : Bool := c = ' ' || c = '\t'

/-- A character that divides the items of collections in brackets. -/
def isFlowMark (c : Char) : Bool := ",[]\x7b\x7d".toList.contains c

/-- A character of the words that directives and handles of tags are. -/
def isWordChar (c : Char) : Bool := c.isAlphanum || c = '_' || c = '-'

/-- A text ends here, or a line end is next. -/
def endsLine (text : List Char) : Bool := text.head?.all isBreak

/-- A text ends here, or a blank or a line end is next. -/
def endsWord (text : List Char) : Bool := text.head?.all fun c => isBlank c || isBreak c

/-- A place in a document. -/
structure Cursor where
  /-- The number of the line. -/
  line : Nat := 0
  /-- The column in it. -/
  column : Nat := 0
  /-- Nothing but blanks stands in front of it on its line. -/
  fresh : Bool := true
  /-- What follows. -/
  rest : List Char
  /-- How many characters follow. -/
  left : Nat

/-- The place in front of a text. -/
def Cursor.ofText (text : List Char) : Cursor := { rest := text, left := text.length }

namespace Cursor

/-- The cursor behind the next characters, among which there is no line end, if all are blanks. -/
def skip (cursor : Cursor) (count : Nat) : Cursor :=
  { cursor with
    column := cursor.column + count, rest := cursor.rest.drop count, left := cursor.left - count }

/--
The cursor behind the next characters, among which there is no line end, if some are not blank.
-/
def pass (cursor : Cursor) (count : Nat) : Cursor := { cursor.skip count with fresh := false }

/-- The cursor behind a line end. -/
def nextLine (cursor : Cursor) : Cursor :=
  match cursor.rest with
  | '\r' :: '\n' :: rest => ⟨cursor.line + 1, 0, true, rest, cursor.left - 2⟩
  | _ :: rest => ⟨cursor.line + 1, 0, true, rest, cursor.left - 1⟩
  | [] => cursor

/-- The cursor at the end of its line. -/
def passLine (cursor : Cursor) : Cursor :=
  cursor.pass (cursor.rest.takeWhile fun c => !isBreak c).length

/-- A line that starts or ends a document. -/
def isMarker (cursor : Cursor) : Bool :=
  cursor.column = 0 && endsWord (cursor.rest.drop 3) &&
    ("---".toList.isPrefixOf cursor.rest || "...".toList.isPrefixOf cursor.rest)

end Cursor

/-- Which blanks were skipped. -/
structure Gap where
  tab : Bool := false
  space : Bool := false

/--
Skips blanks and a comment, up to the line end at most. A comment is set off by a blank; the bound
limits the steps.
-/
def skipGap? : Nat → Gap → Cursor → Option (Gap × Cursor)
  | 0, gap, cursor => some (gap, cursor)
  | bound + 1, gap, cursor =>
    match cursor.rest with
    | ' ' :: _ => skipGap? bound { gap with space := true } (cursor.skip 1)
    | '\t' :: _ => skipGap? bound { gap with tab := true } (cursor.skip 1)
    | '#' :: _ => if gap.tab || gap.space then some (gap, cursor.passLine) else none
    | _ => some (gap, cursor)

/-- The blanks at a cursor, and the cursor behind them and a comment that follows. -/
def Cursor.gap? (cursor : Cursor) : Option (Gap × Cursor) := skipGap? (cursor.left + 1) {} cursor

/-- The cursor behind the rest of a line that holds nothing but blanks and a comment. -/
def Cursor.lineEnd? (cursor : Cursor) : Option Cursor := do
  let (_, final) ← cursor.gap?
  if endsLine final.rest then some final else none

/-- Line ends as text: one alone is a space, and of several the first one is dropped. -/
def folded (breaks : Nat) : List Char :=
  if breaks ≤ 1 then [' '] else List.replicate (breaks - 1) '\n'

end Manuscript.Config.Yaml
