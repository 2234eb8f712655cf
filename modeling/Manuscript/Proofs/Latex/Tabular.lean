import Manuscript.Latex.Escape
import Manuscript.Table

/-!
The rows of a tabular as LaTeX cuts them: a double backslash ends a row, and an ampersand that no
backslash stands in front of ends a cell. Rows whose cells keep clear of both are read back from their
lines.
-/

namespace Manuscript

namespace Tabular

/-- The pieces of a text between its double backslashes. -/
def rowPieces : List Char → List (List Char)
  | [] => [[]]
  | '\\' :: '\\' :: rest => [] :: rowPieces rest
  | c :: rest => (rowPieces rest).modifyHead (c :: ·)

/--
The pieces of a text between its ampersands, those behind a backslash apart. Whether a backslash
stands in front of the text is told first.
-/
def cellPieces (escaped : Bool) : List Char → List (List Char)
  | [] => [[]]
  | c :: rest =>
    if c = '&' ∧ escaped = false then [] :: cellPieces false rest
    else (cellPieces (c == '\\') rest).modifyHead (c :: ·)

/-- The cells of a row: a blank stands at both ends of an ampersand, and one in front of the end. -/
def readRow (line : List Char) : List String :=
  match cellPieces false line with
  | [] => []
  | first :: rest => (first.dropLast :: rest.map fun piece => (piece.drop 1).dropLast).map .ofList

/-- The rows of a text; each but the first starts in a line of its own, behind an indentation. -/
def readRows (text : String) : List (List String) :=
  -- What stands behind the last end of a row is no row.
  match (rowPieces text.toList).dropLast with
  | [] => []
  | first :: rest => (first :: rest.map (·.drop "\n        ".length)).map readRow

end Tabular

/--
A text whose backslashes stand in front of one other character each, and whose characters are
otherwise all of a class.
-/
inductive Unbroken (single : Char → Prop) : List Char → Prop
  /-- Nothing is unbroken. -/
  | nil : Unbroken single []
  /-- A character of the class may stand in front. -/
  | char {c : Char} {rest : List Char} (other : c ≠ '\\') (within : single c)
    (more : Unbroken single rest) : Unbroken single (c :: rest)
  /-- Any character but a backslash may stand in front behind a backslash. -/
  | escaped {c : Char} {rest : List Char} (other : c ≠ '\\') (more : Unbroken single rest) :
    Unbroken single ('\\' :: c :: rest)

namespace Unbroken

variable {single : Char → Prop} {front back : List Char}

/-- Unbroken texts one after another are unbroken. -/
theorem append (first : Unbroken single front) (last : Unbroken single back) :
    Unbroken single (front ++ back) := by
  -- The first text has no open end that the second one could close.
  induction first with
  | nil => exact last
  | char other within _ ih => exact .char other within ih
  | escaped other _ ih => exact .escaped other ih

/-- A text is unbroken for a wider class, too. -/
theorem mono {wider : Char → Prop} (text : Unbroken single front)
    (subset : ∀ c, single c → wider c) : Unbroken wider front := by
  induction text with
  | nil => exact .nil
  | char other within _ ih => exact .char other (subset _ within) ih
  -- What is escaped is no character by itself.
  | escaped other _ ih => exact .escaped other ih

/-- A text of characters of the class without a backslash is unbroken. -/
theorem of_all [DecidablePred single]
    (plain : front.all (fun c => c ≠ '\\' ∧ single c) = true) : Unbroken single front := by
  induction front with
  | nil => exact .nil
  | cons c rest ih =>
    obtain ⟨here, others⟩ := Bool.and_eq_true_iff.mp plain
    have ⟨other, within⟩ := of_decide_eq_true here
    -- No character is a backslash, so that none is escaped.
    exact .char other within (ih others)

end Unbroken

/-- A text that may stand in a cell: it ends no row and no cell. -/
abbrev IsCellText (text : List Char) : Prop := Unbroken (· ≠ '&') text

/-- A text that may stand in a row: it does not end the row. -/
abbrev IsRowText (text : List Char) : Prop := Unbroken (fun _ => True) text

/-- A character is written as text for a cell, reserved or not. -/
theorem isCellText_escapeChar (c : Char) : IsCellText (escapeChar c) := by
  unfold escapeChar reservedForm?
  split
  -- Three characters are written as words with an empty group, the others behind a backslash.
  case h_1 => exact .escaped (by decide) (.of_all (by decide))
  case h_8 => exact .escaped (by decide) (.of_all (by decide))
  case h_10 => exact .escaped (by decide) (.of_all (by decide))
  case h_11 noBackslash _ _ _ noMark _ _ _ _ _ => exact .char noBackslash noMark .nil
  all_goals exact .escaped (by decide) .nil

/-- Escaped text is text for a cell, whatever it was before. -/
theorem isCellText_escapeText (text : String) : IsCellText (escapeText text).toList := by
  rw [escapeText, String.toList_ofList]
  induction text.toList with
  | nil => exact .nil
  | cons c rest ih => exact (isCellText_escapeChar c).append ih

namespace Tabular

variable {text : List Char}

/-- A character that is no backslash belongs to the first piece. -/
theorem rowPieces_cons {c : Char} (other : c ≠ '\\') (rest : List Char) :
    rowPieces (c :: rest) = (rowPieces rest).modifyHead (c :: ·) := by
  rw [rowPieces]
  rintro _ rfl
  exact absurd rfl other

/-- A text that ends no row belongs to the first row of what follows. -/
theorem rowPieces_append (row : IsRowText text) (back : List Char) :
    rowPieces (text ++ back) = (rowPieces back).modifyHead (text ++ ·) := by
  induction row with
  | nil => exact (congrFun List.modifyHead_id _).symm
  -- A character that is no backslash ends no row.
  | char other _ _ ih =>
    rw [List.cons_append, rowPieces_cons other, ih, List.modifyHead_modifyHead]
    rfl
  | @escaped c rest other _ ih =>
    -- The backslash and the character behind it are no pair of backslashes.
    have pair : rowPieces ('\\' :: c :: (rest ++ back)) =
        (rowPieces (c :: (rest ++ back))).modifyHead ('\\' :: ·) := by
      rw [rowPieces]
      rintro _ - ⟨⟩
      exact other rfl
    rw [List.cons_append, List.cons_append, pair, rowPieces_cons other, ih,
      List.modifyHead_modifyHead, List.modifyHead_modifyHead]
    rfl

/-- A text that ends no cell belongs to the first cell of what follows. -/
theorem cellPieces_append (cell : IsCellText text) (back : List Char) :
    cellPieces false (text ++ back) = (cellPieces false back).modifyHead (text ++ ·) := by
  induction cell with
  | nil => exact (congrFun List.modifyHead_id _).symm
  -- A character of a cell is no ampersand.
  | @char c rest other within _ ih =>
    have behind : (c == '\\') = false := by simpa using other
    rw [List.cons_append, cellPieces, if_neg fun mark => within mark.1, behind, ih,
      List.modifyHead_modifyHead]
    rfl
  | @escaped c rest other _ ih =>
    have behind : (c == '\\') = false := by simpa using other
    -- The backslash is no ampersand, and the character behind it ends nothing.
    have first : cellPieces false ('\\' :: c :: (rest ++ back)) =
        (cellPieces true (c :: (rest ++ back))).modifyHead ('\\' :: ·) := if_neg (by simp)
    rw [List.cons_append, List.cons_append, first, cellPieces, if_neg (by simp), behind, ih,
      List.modifyHead_modifyHead, List.modifyHead_modifyHead]
    rfl

/-- The text of a row in front of its end. -/
def rowText (cells : List String) : List Char := (" & ".intercalate cells).toList ++ [' ']

/-- The line of a row is its text with the end of the row. -/
theorem toList_rowLine (cells : List String) :
    (TableAssembly.rowLine cells).toList = rowText cells ++ ['\\', '\\'] := by
  rw [TableAssembly.rowLine, String.toList_append, rowText, List.append_assoc]
  rfl

/-- A single cell stands in front of a blank. -/
theorem rowText_singleton (cell : String) : rowText [cell] = cell.toList ++ [' '] := by
  rw [rowText, String.intercalate_singleton]

/-- The first of several cells stands in front of an ampersand between blanks. -/
theorem rowText_cons_cons (first second : String) (rest : List String) :
    rowText (first :: second :: rest) =
      first.toList ++ (' ' :: '&' :: ' ' :: rowText (second :: rest)) := by
  simp [rowText]

section Cells

variable {first : String} {rest : List String}
  (cells : ∀ cell ∈ first :: rest, IsCellText cell.toList)

include cells

/-- A row is cut into its cells with the blanks around them. -/
theorem cellPieces_rowText :
    cellPieces false (rowText (first :: rest)) =
      (first.toList ++ [' ']) :: rest.map fun cell => ' ' :: (cell.toList ++ [' ']) := by
  -- By induction on the cells: each ends at its ampersand, whose blanks go to both of its sides.
  induction rest generalizing first with
  | nil =>
    rw [rowText_singleton, cellPieces_append (cells first List.mem_cons_self)]
    rfl
  | cons second rest ih =>
    obtain ⟨here, others⟩ := List.forall_mem_cons.mp cells
    have blank (text : List Char) : cellPieces false (' ' :: text) =
        (cellPieces false text).modifyHead (' ' :: ·) := rfl
    have mark (text : List Char) : cellPieces false ('&' :: text) = [] :: cellPieces false text :=
      rfl
    rw [rowText_cons_cons, cellPieces_append here, blank, mark, blank, ih others]
    rfl

/-- The cells of a row are read back from its text. -/
theorem readRow_rowText : readRow (rowText (first :: rest)) = first :: rest := by
  simp [readRow, cellPieces_rowText cells, Function.comp_def]

/-- A row of cells that end no row does not end before its end. -/
theorem isRowText_rowText : IsRowText (rowText (first :: rest)) := by
  -- Cell by cell, with the mark between two cells, which belongs to no cell.
  induction rest generalizing first with
  | nil =>
    rw [rowText_singleton]
    exact ((cells first List.mem_cons_self).mono fun _ _ => trivial).append
      (.of_all (by simp))
  | cons second rest ih =>
    obtain ⟨here, others⟩ := List.forall_mem_cons.mp cells
    have between : IsRowText [' ', '&', ' '] := .of_all (by simp)
    rw [rowText_cons_cons]
    exact (here.mono fun _ _ => trivial).append (between.append (ih others))

end Cells

/-- What the lines of rows are cut into: the text of each row, indented behind the first. -/
theorem rowPieces_lines {row : List String} {rows : List (List String)}
    (texts : ∀ cells ∈ row :: rows, IsRowText (rowText cells)) :
    rowPieces ("\n        ".intercalate ((row :: rows).map TableAssembly.rowLine)).toList =
      rowText row :: (rows.map fun cells => "\n        ".toList ++ rowText cells) ++ [[]] := by
  -- The end of a line ends its row, whatever stands behind it.
  have ended {cells : List String} (text : IsRowText (rowText cells)) (back : List Char) :
      rowPieces ((TableAssembly.rowLine cells).toList ++ back) = rowText cells :: rowPieces back := by
    rw [toList_rowLine, List.append_assoc, rowPieces_append text]
    simp [rowPieces]
  induction rows generalizing row with
  | nil =>
    rw [List.map_singleton, String.intercalate_singleton, ← List.append_nil (String.toList _),
      ended (texts row List.mem_cons_self)]
    rfl
  | cons second rows ih =>
    obtain ⟨here, others⟩ := List.forall_mem_cons.mp texts
    -- The line behind starts with blanks, which end no row.
    have indent : IsRowText "\n        ".toList := .of_all (by decide)
    rw [List.map_cons, List.map_cons, String.intercalate_cons_cons, String.toList_append,
      String.toList_append, List.append_assoc, ended here, rowPieces_append indent,
      ← List.map_cons, ih others]
    rfl

/-- Rows are read back from their lines when none is empty and their cells end no row or cell. -/
theorem readRows_lines {rows : List (List String)}
    (clean : ∀ row ∈ rows, row ≠ [] ∧ ∀ cell ∈ row, IsCellText cell.toList) :
    readRows ("\n        ".intercalate (rows.map TableAssembly.rowLine)) = rows := by
  cases rows with
  | nil => rfl
  | cons row rows =>
    -- Every row has a first cell, so that its text is that of a row and is read back.
    have each : ∀ cells ∈ row :: rows, IsRowText (rowText cells) ∧
        readRow (rowText cells) = cells := by
      intro cells member
      obtain ⟨nonempty, inside⟩ := clean cells member
      obtain ⟨first, rest, rfl⟩ := List.exists_cons_of_ne_nil nonempty
      exact ⟨isRowText_rowText inside, readRow_rowText inside⟩
    -- The blanks in front of a line are dropped again.
    have unindented (text : List Char) :
        ("\n        ".toList ++ text).drop "\n        ".length = text := rfl
    calc readRows ("\n        ".intercalate ((row :: rows).map TableAssembly.rowLine))
      _ = (row :: rows).map fun cells => readRow (rowText cells) := by
        rw [readRows, rowPieces_lines fun cells member => (each cells member).1,
          List.dropLast_concat]
        simp only [List.map_cons, List.map_map, Function.comp_def, unindented]
      _ = (row :: rows).map id :=
        List.map_congr_left fun cells member => (each cells member).2
      _ = row :: rows := List.map_id _

end Tabular

namespace TableAssembly

/-- A table whose cells end no row and no cell, and whose rows have cells. -/
structure IsClean (table : TableAssembly) : Prop where
  /-- The header cells are text for cells. -/
  header : ∀ cell ∈ table.header, IsCellText cell.toList
  /-- No row is without cells. -/
  filled : ∀ row ∈ table.rows, row ≠ []
  /-- The cells of the rows are text for cells. -/
  rows : ∀ row ∈ table.rows, ∀ cell ∈ row, IsCellText cell.toList

variable {table : TableAssembly}

/-- The header of a clean table is read back from its line, if it has any cells. -/
theorem IsClean.readRows_headerLine (clean : table.IsClean) :
    Tabular.readRows table.headerLine = if table.header = [] then [] else [table.header] := by
  unfold headerLine
  split
  · rename_i empty
    rw [if_pos (List.isEmpty_iff.mp empty)]
    rfl
  · rename_i nonempty
    have filled : table.header ≠ [] := fun empty => nonempty (List.isEmpty_iff.mpr empty)
    rw [if_neg filled]
    -- The header line is that of a single row.
    have single : ∀ row ∈ [table.header], row ≠ [] ∧ ∀ cell ∈ row, IsCellText cell.toList :=
      List.forall_mem_singleton.mpr ⟨filled, clean.header⟩
    simpa using Tabular.readRows_lines single

/-- The rows of a clean table are read back from their lines. -/
theorem IsClean.readRows_bodyLines (clean : table.IsClean) :
    Tabular.readRows table.bodyLines = table.rows :=
  Tabular.readRows_lines fun row member => ⟨clean.filled row member, clean.rows row member⟩

end TableAssembly

end Manuscript
