import Manuscript.Markdown.Text

/-! A place in a line of the source, with tabs counted as the columns that they span. -/

namespace Manuscript.Markdown

/-- How far apart tab stops are. -/
def tabStop : Nat := 4

/-- The indentation at which a line is code. -/
def codeIndent : Nat := 4

/-- The rest of a line. A tab of which only a part was passed over is still in front of it. -/
structure Cursor where
  /-- The characters that were not passed over; the line end is not among them. -/
  rest : List Char
  /-- The column that was reached. -/
  column : Nat := 0
  /-- A part of the tab in front was passed over. -/
  inTab : Bool := false

namespace Cursor

/-- How many columns a tab at a column spans. -/
def tabWidth (column : Nat) : Nat := tabStop - column % tabStop

/-- The columns that the blanks in front of a text span, from a column on. -/
def blankWidth : Nat → List Char → Nat
  | _, [] => 0
  | column, c :: rest =>
    if c = ' ' then 1 + blankWidth (column + 1) rest
    else if c = '\t' then tabWidth column + blankWidth (column + tabWidth column) rest
    else 0

/-- How far the rest of the line is indented. -/
def indent (cursor : Cursor) : Nat := blankWidth cursor.column cursor.rest

/-- The rest of the line behind its indentation. -/
def text (cursor : Cursor) : List Char := dropBlanks cursor.rest

/-- Nothing but blanks is left. -/
def isBlank (cursor : Cursor) : Bool := cursor.text.isEmpty

/-- The line is indented so far that it is code. -/
def isCode (cursor : Cursor) : Bool := codeIndent ≤ cursor.indent

/-- The columns passed over from a text, of which a tab may be passed over in part. -/
def overColumns : Nat → Nat → List Char → Bool → Cursor
  | _, column, [], _ => ⟨[], column, false⟩
  | count, column, c :: rest, inTab =>
    if count = 0 then ⟨c :: rest, column, inTab⟩
    else if c = '\t' then
      let width := tabWidth column
      -- Only a part of the tab is passed over: it stays in front.
      if count < width then ⟨c :: rest, column + count, true⟩
      else overColumns (count - width) (column + width) rest false
    else overColumns (count - 1) (column + 1) rest false

/-- The cursor moved over a number of columns. -/
def skipColumns (cursor : Cursor) (count : Nat) : Cursor :=
  overColumns count cursor.column cursor.rest cursor.inTab

/-- The cursor moved over a number of characters. -/
def skipChars (cursor : Cursor) : Nat → Cursor
  | 0 => cursor
  | count + 1 =>
    match cursor.rest with
    | [] => cursor
    | c :: rest =>
      let width := if c = '\t' then tabWidth cursor.column else 1
      skipChars ⟨rest, cursor.column + width, false⟩ count

/-- The cursor moved over its indentation. -/
def skipIndent (cursor : Cursor) : Cursor :=
  cursor.skipChars (cursor.rest.length - cursor.text.length)

/-- The cursor moved to the end of the line. -/
def skipLine (cursor : Cursor) : Cursor := ⟨[], cursor.column, false⟩

/-- The cursor moved over one column when a blank is in front. -/
def skipOptionalBlank (cursor : Cursor) : Cursor :=
  if cursor.rest.head?.any Markdown.isBlank then cursor.skipColumns 1 else cursor

/-- The rest of the line as it is kept, with spaces for what is left of a tab. -/
def line (cursor : Cursor) : List Char :=
  if cursor.inTab then List.replicate (tabWidth cursor.column) ' ' ++ cursor.rest.drop 1
  else cursor.rest

end Cursor

end Manuscript.Markdown
