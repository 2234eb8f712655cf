import Manuscript.Markdown.Syntax
import Manuscript.Markdown.Text

/-! Rows of tables: the cells between pipes. -/

namespace Manuscript.Markdown

/-- A blank of a table row. -/
def isRowBlank (c : Char) : Bool := c = ' ' || c = '\t' || c = '\x0b' || c = '\x0c'

/-- A cell and what follows it: up to a pipe that stands behind no backslash, or to the line end. -/
def cellText (previous : Char) : List Char → List Char × List Char
  | [] => ([], [])
  | c :: rest =>
    if (c = '|' ∧ previous ≠ '\\') ∨ c = '\r' ∨ c = '\n' then ([], c :: rest)
    else
      let (cell, after) := cellText c rest
      (c :: cell, after)

/-- A cell with the backslashes in front of pipes dropped. -/
def unescapePipes : List Char → List Char
  | [] => []
  | '\\' :: '|' :: rest => '|' :: unescapePipes rest
  | c :: rest => c :: unescapePipes rest

/-- A row without the pipe in front of it, and the blanks behind that. -/
def skipPipe (text : List Char) : List Char :=
  match text with
  | '|' :: rest => rest.dropWhile isRowBlank
  | _ => text

/-- What follows the blanks and the line end at the end of a row. -/
def afterRow? (text : List Char) : Option (List Char) :=
  match text.dropWhile isRowBlank with
  | '\n' :: rest => some rest
  | '\r' :: '\n' :: rest => some rest
  | _ => none

/-- The cells of a row, and how much of the text stands before the row. -/
structure Row where
  /-- The cells from left to right. -/
  cells : List (List Char)
  /-- The lines in front of the row. -/
  before : List Char

/--
Reads the cells of the last line of a text. Lines in front of it are passed over; `seen` is what was
passed over already, and `cells` are the cells of the present line.
-/
def rowFrom (whole : List Char) : Nat → List Char → List (List Char) → List Char → Option Row
  | 0, _, _, _ => none
  | bound + 1, before, cells, text =>
    if text.isEmpty then if cells.isEmpty then none else some ⟨cells, before⟩
    else
      let (cell, behind) := cellText '|' text
      let rest := skipPipe behind
      let piped := rest.length < behind.length
      -- An empty cell needs a pipe behind it.
      let cells := if !cell.isEmpty || piped then cells ++ [trim (unescapePipes cell)] else cells
      if piped then rowFrom whole bound before cells rest
      else
        match afterRow? rest with
        | none => if rest.isEmpty && !cells.isEmpty then some ⟨cells, before⟩ else none
        | some [] => if cells.isEmpty then none else some ⟨cells, before⟩
        -- Another line follows: only the last one is the row.
        | some more =>
          rowFrom whole bound (whole.take (whole.length - more.length)) [] (skipPipe more)

/-- The row that a text ends with. -/
def row? (text : List Char) : Option Row :=
  rowFrom text (text.length + 1) [] [] (skipPipe text)

/-- A marker of a delimiter row and what follows it. -/
def afterMarker? (text : List Char) : Option (List Char) :=
  let colon (text : List Char) : List Char :=
    match text with
    | ':' :: rest => rest
    | _ => text
  match colon (text.dropWhile isRowBlank) with
  | '-' :: rest => some ((colon (rest.dropWhile (· = '-'))).dropWhile isRowBlank)
  | _ => none

/-- The rest of a delimiter row behind a marker. -/
def endsDelimiters : Nat → List Char → Bool
  | 0, _ => false
  | bound + 1, text =>
    match text with
    | [] => true
    | ['|'] => true
    | '|' :: rest =>
      -- The last pipe may close the row.
      (rest.all isRowBlank) ||
        match afterMarker? rest with
        | some more => endsDelimiters bound more
        | none => false
    | _ => false

/-- A line that separates the header of a table from its body. -/
def isDelimiterRow (line : List Char) : Bool :=
  let inner :=
    match line with
    | '|' :: rest => rest
    | _ => line
  match afterMarker? inner with
  | some rest => endsDelimiters (line.length + 1) rest
  | none => false

/-- The alignment that a cell of the delimiter row asks for. -/
def alignmentOf (cell : List Char) : Alignment :=
  -- The side on which the colon stands is the side to which the column is set.
  match cell.head? == some ':', cell.getLast? == some ':' with
  | true, true => .center
  | true, false => .left
  | false, true => .right
  | false, false => .unspecified

/-- As many cells as there are columns: missing ones are empty, and further ones are left out. -/
def fitCells (columns : Nat) (cells : List (List Char)) : List (List Char) :=
  cells.take columns ++ List.replicate (columns - cells.length) []

end Manuscript.Markdown
