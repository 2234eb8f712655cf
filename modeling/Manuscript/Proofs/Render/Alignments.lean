import Manuscript.Proofs.Render.Assembly
import Manuscript.Proofs.Render.Walk
import Mathlib.Data.List.Forall2

/-!
What a table says of the alignment of its columns. The cells of its header say how the columns are
aligned, and without a header those of its first row. A row in front of the header is taken for the
first row of a table without one: what its cells say stays in front of what the header says.
-/

namespace Manuscript

variable {α β : Type}

namespace TablePart

/-- The header cells among parts of a table. -/
def headers : List (TablePart α) → List (Attrs × α)
  | [] => []
  | .header attrs content :: rest => (attrs, content) :: headers rest
  | .row _ :: rest => headers rest

/-- The rows among parts of a table. -/
def rows : List (TablePart α) → List (List (Attrs × α))
  | [] => []
  | .header _ _ :: rest => rows rest
  | .row cells :: rest => cells :: rows rest

/-- The cells of the row that parts of a table begin with, if they begin with a row. -/
def leading : List (TablePart α) → List (Attrs × α)
  | .row cells :: _ => cells
  | _ => []

/-- Cells with the same attributes and related contents. -/
def CellRel (related : α → β → Prop) (cell : Attrs × α) (other : Attrs × β) : Prop :=
  cell.1 = other.1 ∧ related cell.2 other.2

/-- Parts of the same form with related contents. -/
inductive Rel (related : α → β → Prop) : TablePart α → TablePart β → Prop where
  /-- Header cells with the same attributes. -/
  | header {attrs : Attrs} {content : α} {other : β} (contents : related content other) :
    Rel related (.header attrs content) (.header attrs other)
  /-- Rows of as many cells. -/
  | row {cells : List (Attrs × α)} {others : List (Attrs × β)}
    (each : List.Forall₂ (CellRel related) cells others) : Rel related (.row cells) (.row others)

section Related

variable {related : α → β → Prop} {parts : List (TablePart α)} {others : List (TablePart β)}
  (each : List.Forall₂ (Rel related) parts others)

include each

/-- Related parts have related header cells. -/
theorem forall₂_headers : List.Forall₂ (CellRel related) (headers parts) (headers others) := by
  -- Related parts are of the same form, so that both have a header cell or neither has one.
  induction each with
  | nil => exact .nil
  | cons first _ ih =>
    cases first with
    | header contents => exact .cons ⟨rfl, contents⟩ ih
    | row _ => exact ih

/-- Related parts have related rows. -/
theorem forall₂_rows :
    List.Forall₂ (List.Forall₂ (CellRel related)) (rows parts) (rows others) := by
  induction each with
  | nil => exact .nil
  | cons first _ ih =>
    -- A header is no row, on neither side.
    cases first with
    | header _ => exact ih
    | row cells => exact .cons cells ih

/-- Related parts begin with related rows, if they begin with rows. -/
theorem forall₂_leading : List.Forall₂ (CellRel related) (leading parts) (leading others) := by
  cases each with
  | nil => exact .nil
  -- Only a row in front of all other parts is a leading one.
  | cons first _ =>
    cases first with
    | header _ => exact .nil
    | row cells => exact cells

end Related

/-- Cells that take other contents are related to what they were, where the contents are. -/
theorem forall₂_cells {related : β → α → Prop} {cells : List (Attrs × α)} {contents : List β}
    (each : List.Forall₂ related contents (cells.map (·.2))) :
    List.Forall₂ (CellRel related) ((cells.map (·.1)).zip contents) cells := by
  -- Each cell keeps its attributes and takes the content at its place.
  induction cells generalizing contents with
  | nil => exact .nil
  | cons cell rest ih =>
    cases each with
    | cons first others => exact .cons ⟨rfl, first⟩ (ih others)

/-- Parts that are filled with other contents are related to what they were, where these are. -/
theorem forall₂_refill {related : β → α → Prop} {parts : List (TablePart α)} {contents : List β}
    (each : List.Forall₂ related contents (parts.flatMap TablePart.contents)) :
    List.Forall₂ (Rel related) (refill parts contents) parts := by
  induction parts generalizing contents with
  | nil => cases each; exact .nil
  | cons part rest ih =>
    rw [List.flatMap_cons] at each
    cases part with
    | header attrs content =>
      cases each with
      -- A header takes one of them.
      | cons first others => exact .cons (.header first) (ih others)
    | row cells =>
      -- The row takes as many of the contents as it has cells, and leaves those of the others.
      have own := List.forall₂_take_append _ _ _ each
      have others := List.forall₂_drop_append _ _ _ each
      rw [TablePart.contents, List.length_map] at own others
      exact .cons (.row (forall₂_cells own)) (ih others)

/-- Header cells of the first parts come before those of the others. -/
theorem headers_append (front back : List (TablePart α)) :
    headers (front ++ back) = headers front ++ headers back := by
  induction front with
  | nil => rfl
  | cons part rest ih => cases part <;> simp [headers, ih]

/-- Rows of the first parts come before those of the others. -/
theorem rows_append (front back : List (TablePart α)) :
    rows (front ++ back) = rows front ++ rows back := by
  induction front with
  | nil => rfl
  | cons part rest ih => cases part <;> simp [rows, ih]

end TablePart

/-- Each step along a list gives a result of its item, at some count. -/
theorem forall₂_results_thread {γ : Type} (step : Nat → α → γ × Nat) (count : Nat)
    (items : List α) :
    List.Forall₂ (fun result item => ∃ count, result = (step count item).1)
      (thread step count items).1 items := by
  -- Each item is rendered with the count that the ones before it left.
  induction items generalizing count with
  | nil => exact .nil
  | cons item rest ih => exact .cons ⟨count, rfl⟩ (ih _)

namespace Renderer

variable (r : Renderer)

/-- What cells say of the alignment of their columns. -/
def hints (cells : List (Attrs × α)) : List (Option String) :=
  cells.map fun cell => cell.1.text? "align"

/-- Cells with the same attributes say the same of their columns. -/
theorem hints_congr {related : α → β → Prop} {cells : List (Attrs × α)}
    {others : List (Attrs × β)} (each : List.Forall₂ (TablePart.CellRel related) cells others) :
    hints cells = hints others := by
  induction each with
  | nil => rfl
  | cons first _ ih => rw [hints, List.map_cons, first.1, ← hints, ih]; rfl

/-- The header of a table is made of the header cells of its parts. -/
theorem headerTexts_eq (parts : List (TablePart String)) :
    r.headerTexts parts = (TablePart.headers parts).map fun cell => r.strong cell.2 := by
  induction parts with
  | nil => rfl
  | cons part rest ih => cases part <;> simp [headerTexts, TablePart.headers, ih]

/-- The body of a table is made of the rows of its parts. -/
theorem rowTexts_eq (parts : List (TablePart String)) :
    r.rowTexts parts = (TablePart.rows parts).map r.cellTexts := by
  induction parts with
  | nil => rfl
  | cons part rest ih => cases part <;> simp [rowTexts, TablePart.rows, ih]

/-- Behind what was assembled before only header cells say something of the columns. -/
theorem alignments_foldl_addPart_of_some (parts : List (TablePart String)) {table : TableAssembly}
    (some : (table.header.isEmpty && table.rows.isEmpty) = false) :
    (parts.foldl r.addPart table).alignments =
      table.alignments ++ hints (TablePart.headers parts) := by
  -- A table that has a cell keeps one, so that no later row is taken for the first.
  induction parts generalizing table with
  | nil => exact (List.append_nil _).symm
  | cons part rest ih =>
    cases part with
    | header attrs content =>
      rw [List.foldl_cons, ih (by simp [addPart])]
      simp [addPart, TablePart.headers, hints]
    | row cells =>
      rw [List.foldl_cons, ih (by simp [addPart])]
      simp [addPart, some, TablePart.headers]

/-- What is said of the columns: what the cells of a row in front of all header cells say, and
behind that what the header cells say. -/
theorem alignments_foldl_addPart (parts : List (TablePart String)) :
    (parts.foldl r.addPart {}).alignments =
      hints (TablePart.leading parts) ++ hints (TablePart.headers parts) := by
  -- Only the first part is added to a table without cells.
  cases parts with
  | nil => rfl
  | cons part rest =>
    rw [List.foldl_cons, alignments_foldl_addPart_of_some]
    · cases part <;> rfl
    · cases part <;> simp [addPart]

end Renderer

namespace Token

/-- The cells of the header of a table, from all of its heads. -/
def headerOf (sections : List Token) : List Token :=
  (sections.filter (·.kind = .tableHead)).flatMap fun head => headCells head.children

/-- The rows of a table by their cells, from all of its bodies. -/
def rowsOf (sections : List Token) : List (List Token) :=
  (sections.filter (·.kind = .tableBody)).flatMap fun body => bodyRows body.children

/-- The cells of the first row of a table, if that stands in front of all header cells. -/
def leadingRow : List Token → List Token
  | [] => []
  | part :: rest =>
    if part.kind = .tableHead ∧ headCells part.children ≠ [] then []
    else if part.kind = .tableBody then (bodyRows part.children).headD (leadingRow rest)
    else leadingRow rest

/-- The cells that tell of the columns: those of the header, and without a header those of the
first row. -/
def columnCells (sections : List Token) : List Token :=
  if headerOf sections = [] then (rowsOf sections).headD [] else headerOf sections

/-- What a cell says of the alignment of its column. -/
def hint (cell : Token) : Option String := cell.attrs.text? "align"

/-- A cell as a part of a table has it. -/
def cellPart (cell : Token) : Attrs × List Token := (cell.attrs, cell.children)

/-- Header cells are the header cells of their parts. -/
theorem headers_map_headerPart (cells : List Token) :
    TablePart.headers (cells.map headerPart) = cells.map cellPart := by
  induction cells with
  | nil => rfl
  | cons cell rest ih => rw [List.map_cons, headerPart, TablePart.headers, ih]; rfl

/-- There are no header cells among rows. -/
theorem headers_map_rowPart (rows : List (List Token)) :
    TablePart.headers (rows.map rowPart) = [] := by
  induction rows with
  | nil => rfl
  | cons row rest ih => exact ih

/-- There are no rows among header cells. -/
theorem rows_map_headerPart (cells : List Token) :
    TablePart.rows (cells.map headerPart) = [] := by
  induction cells with
  | nil => rfl
  | cons cell rest ih => exact ih

/-- Rows are the rows of their parts. -/
theorem rows_map_rowPart (rows : List (List Token)) :
    TablePart.rows (rows.map rowPart) = rows.map (List.map cellPart) := by
  induction rows with
  | nil => rfl
  | cons row rest ih => rw [List.map_cons, rowPart, TablePart.rows, ih]; rfl

/-- A section is a head with its cells, a body with its rows, or adds nothing to its table. -/
theorem section_cases (part : Token) :
    (part.kind = .tableHead ∧ part.sectionParts = (headCells part.children).map headerPart) ∨
      (part.kind = .tableBody ∧ part.sectionParts = (bodyRows part.children).map rowPart) ∨
      (part.kind ≠ .tableHead ∧ part.kind ≠ .tableBody ∧ part.sectionParts = []) := by
  obtain ⟨kind, raw?, children?, attrs⟩ := part
  cases kind <;> simp [sectionParts]

/-- The header cells among the parts of a table are those of its heads. -/
theorem headers_sectionParts (sections : List Token) :
    TablePart.headers (sections.flatMap sectionParts) = (headerOf sections).map cellPart := by
  -- Section by section: heads give header cells, bodies give none, and nothing else gives anything.
  induction sections with
  | nil => rfl
  | cons part rest ih =>
    rw [List.flatMap_cons, TablePart.headers_append, ih]
    rcases part.section_cases with ⟨isHead, parts⟩ | ⟨isBody, parts⟩ | ⟨notHead, -, parts⟩
    · simp [parts, headers_map_headerPart, headerOf, isHead]
    · simp [parts, headers_map_rowPart, headerOf, isBody]
    · simp [parts, TablePart.headers, headerOf, notHead]

/-- The rows among the parts of a table are those of its bodies. -/
theorem rows_sectionParts (sections : List Token) :
    TablePart.rows (sections.flatMap sectionParts) = (rowsOf sections).map (List.map cellPart) := by
  -- Section by section: bodies give rows, heads give none, and nothing else gives anything.
  induction sections with
  | nil => rfl
  | cons part rest ih =>
    rw [List.flatMap_cons, TablePart.rows_append, ih]
    rcases part.section_cases with ⟨isHead, parts⟩ | ⟨isBody, parts⟩ | ⟨-, notBody, parts⟩
    · simp [parts, rows_map_headerPart, rowsOf, isHead]
    · simp [parts, rows_map_rowPart, rowsOf, isBody]
    · simp [parts, TablePart.rows, rowsOf, notBody]

/-- The row that the parts of a table begin with is that in front of all header cells. -/
theorem leading_sectionParts (sections : List Token) :
    TablePart.leading (sections.flatMap sectionParts) = (leadingRow sections).map cellPart := by
  -- The row that comes first ends at the first header cell, or else at the end of the first row.
  induction sections with
  | nil => rfl
  | cons part rest ih =>
    rw [List.flatMap_cons, leadingRow]
    rcases part.section_cases with ⟨isHead, parts⟩ | ⟨isBody, parts⟩ | ⟨notHead, notBody, parts⟩
    · cases cells : headCells part.children with
      | nil => simp [parts, cells, isHead, ih]
      | cons cell others => simp [parts, cells, isHead, headerPart, TablePart.leading]
    · cases rows : bodyRows part.children with
      | nil => simp [parts, rows, isBody, ih]
      | cons row others => simp [parts, rows, isBody, rowPart, TablePart.leading, cellPart]
    · simp [parts, notHead, notBody, ih]

/-- Without header cells the first row stands in front of them all. -/
theorem leadingRow_of_headerOf {sections : List Token} (none : headerOf sections = []) :
    leadingRow sections = (rowsOf sections).headD [] := by
  induction sections with
  | nil => rfl
  | cons part rest ih =>
    rw [leadingRow]
    -- A head has no cells here, and a body without rows is passed over like any other token.
    rcases part.section_cases with ⟨isHead, -⟩ | ⟨isBody, -⟩ | ⟨notHead, notBody, -⟩
    · have cells : headCells part.children ++ headerOf rest = [] := by
        rw [← none]
        simp [headerOf, isHead]
      obtain ⟨empty, others⟩ := List.append_eq_nil_iff.mp cells
      simp [isHead, empty, rowsOf, ih others]
    · cases rows : bodyRows part.children with
      | nil =>
        have := ih (by simpa [headerOf, isBody] using none)
        simp [isBody, rows, rowsOf, this]
      | cons row others => simp [isBody, rows, rowsOf]
    · have := ih (by simpa [headerOf, notHead] using none)
      simp [notHead, notBody, rowsOf, this]

/-- The cells of a row in front of a header and those of the header tell of the columns, unless
there are both. -/
theorem leadingRow_append_headerOf {sections : List Token}
    (apart : headerOf sections = [] ∨ leadingRow sections = []) :
    leadingRow sections ++ headerOf sections = columnCells sections := by
  -- With a header the columns are its cells, and without one those of the first row.
  by_cases none : headerOf sections = []
  · rw [columnCells, if_pos none, none, List.append_nil, leadingRow_of_headerOf none]
  · rw [columnCells, if_neg none, apart.resolve_left none, List.nil_append]

end Token

/-- What is assembled holds the texts of cells, each rendered behind some number of tables. -/
structure Renderer.Writes (r : Renderer) (table : TableAssembly) (header : List Token)
    (rows : List (List Token)) : Prop where
  /-- Each header cell is strong. -/
  header : List.Forall₂
    (fun text (cell : Token) => ∃ count, text = r.strong (r.renderTokens 0 count cell.children).1)
    table.header header
  /-- Each cell of a row is written as such. -/
  rows : List.Forall₂
    (List.Forall₂ fun text (cell : Token) =>
      ∃ count, text = r.cellText cell.attrs (r.renderTokens 0 count cell.children).1)
    table.rows rows

/-- A table with one entry on the alignment of each of its columns, that of some cells. -/
structure TableAssembly.IsAligned (table : TableAssembly) (cells : List Token) : Prop where
  /-- With a header there is an entry for each cell of it. -/
  headed : table.header ≠ [] → table.alignments.length = table.header.length
  /-- Without a header there is an entry for each cell of the first row, if there is one. -/
  unheaded : table.header = [] → table.alignments.length = (table.rows.headD []).length
  /-- Each entry is what the cell of its column says. -/
  entry : ∀ (column : Nat) (cell : Token), cells[column]? = some cell →
    table.alignments[column]? = some (cell.attrs.text? "align")

namespace Renderer

variable (r : Renderer)

/-- The parts of a table are filled with what their contents are rendered to. -/
theorem forall₂_rendered (depth tables : Nat) (parts : List (TablePart (List Token))) :
    List.Forall₂
      (TablePart.Rel fun text tokens => ∃ count, text = (r.renderTokens depth count tokens).1)
      (TablePart.refill parts
        (thread (r.renderTokens depth) tables (parts.flatMap TablePart.contents)).1) parts :=
  TablePart.forall₂_refill (forall₂_results_thread (r.renderTokens depth) tables _)

/-- What is assembled of a table is written from its cells. -/
theorem writes_assembleTable (tables : Nat) (token : Token) :
    r.Writes (r.assembleTable tables token).1 (Token.headerOf token.children)
      (Token.rowsOf token.children) := by
  rw [assembleTable, assembleSections_eq]
  -- What is written has the form of the parts, and each text is that of the cell at its place.
  have each := r.forall₂_rendered 0 tables (token.children.flatMap Token.sectionParts)
  have header := TablePart.forall₂_headers each
  have rows := TablePart.forall₂_rows each
  simp only [Token.headers_sectionParts, Token.rows_sectionParts,
    List.forall₂_map_right_iff] at header rows
  constructor
  · rw [assembleParts, header_foldl_addPart, List.nil_append, headerTexts_eq,
      List.forall₂_map_left_iff]
    refine header.imp ?_
    -- A header cell is written in bold, and any other one as its attributes say.
    rintro ⟨attrs, text⟩ cell ⟨-, count, same⟩
    exact ⟨count, congrArg r.strong same⟩
  · rw [assembleParts, rows_foldl_addPart, List.nil_append, rowTexts_eq, List.forall₂_map_left_iff]
    refine rows.imp fun _ _ cells => List.forall₂_map_left_iff.mpr (cells.imp ?_)
    rintro ⟨attrs, text⟩ cell ⟨rfl, count, same⟩
    exact ⟨count, congrArg _ same⟩

/-- What is assembled of a table says of the columns what a row in front of all header cells says,
and behind that what the header cells say. -/
theorem alignments_assembleTable (tables : Nat) (token : Token) :
    (r.assembleTable tables token).1.alignments =
      (Token.leadingRow token.children ++ Token.headerOf token.children).map Token.hint := by
  rw [assembleTable, assembleSections_eq, assembleParts, alignments_foldl_addPart]
  -- What is rendered goes cell by cell with what was to be rendered.
  have each := r.forall₂_rendered 0 tables (token.children.flatMap Token.sectionParts)
  have leading := hints_congr (TablePart.forall₂_leading each)
  have headers := hints_congr (TablePart.forall₂_headers each)
  rw [Token.leading_sectionParts] at leading
  rw [Token.headers_sectionParts] at headers
  rw [leading, headers, List.map_append]
  simp only [hints, List.map_map]
  rfl

/-- A table that is written from its cells is aligned by those that tell of the columns when its
entries are what these say. -/
theorem isAligned_of_alignments {table : TableAssembly} {sections : List Token}
    (writes : r.Writes table (Token.headerOf sections) (Token.rowsOf sections))
    (entries : table.alignments = (Token.columnCells sections).map Token.hint) :
    table.IsAligned (Token.columnCells sections) where
  headed some := by
    -- As many header cells are written as there are, so none are written only if there are none.
    have header : Token.headerOf sections ≠ [] := by
      intro none
      exact some (List.forall₂_nil_right_iff.mp (none ▸ writes.header))
    rw [entries, List.length_map, Token.columnCells, if_neg header, writes.header.length_eq]
  unheaded none := by
    have header : Token.headerOf sections = [] :=
      List.forall₂_nil_left_iff.mp (none ▸ writes.header)
    rw [entries, List.length_map, Token.columnCells, if_pos header]
    -- Without a header the columns are those of the first row, if there is one.
    have rows := writes.rows
    generalize Token.rowsOf sections = given, table.rows = written at rows
    cases rows with
    | nil => rfl
    | cons first _ => exact first.length_eq.symm
  entry column cell here := by
    rw [entries, List.getElem?_map, here]
    rfl

/-- A table is written from its cells, with any sections in any order. On the alignment of its
columns it says what a row in front of all header cells says, and behind that what the header cells
say. So there is one entry for each column, unless such a row stands in front of a header. -/
theorem assembleTable_alignments (tables : Nat) (token : Token) :
    let table := (r.assembleTable tables token).1
    let header := Token.headerOf token.children
    let leading := Token.leadingRow token.children
    r.Writes table header (Token.rowsOf token.children) ∧
      table.alignments = (leading ++ header).map Token.hint ∧
      (table.IsAligned (Token.columnCells token.children) ↔ header = [] ∨ leading = []) := by
  intro table header leading
  have writes := r.writes_assembleTable tables token
  have entries := r.alignments_assembleTable tables token
  refine ⟨writes, entries, fun aligned => ?_, fun apart => ?_⟩
  · -- With a header the number of entries leaves no room for those of a row in front of it.
    refine or_iff_not_imp_left.mpr fun headed => ?_
    have count := aligned.headed fun none =>
      headed (List.forall₂_nil_left_iff.mp (none ▸ writes.header))
    rw [entries, List.length_map, List.length_append, writes.header.length_eq] at count
    exact List.eq_nil_of_length_eq_zero (Nat.add_eq_right.mp count)
  · refine isAligned_of_alignments r writes (entries.trans ?_)
    -- With one of the two empty the other one is the columns.
    rw [Token.leadingRow_append_headerOf apart]

/-- A table whose header comes behind its only row has two entries for one column. -/
theorem not_isAligned_headerBehind :
    let r := Renderer.ofTemplates .builtin {}
    let cell (text : String) : Token :=
      { kind := .tableCell, children? := some [{ kind := .text, raw? := some text }] }
    let body : Token :=
      { kind := .tableBody
        children? := some [{ kind := .tableRow, children? := some [cell "x"] }] }
    let head : Token := { kind := .tableHead, children? := some [cell "A"] }
    let token : Token := { kind := .table, children? := some [body, head] }
    Token.headerOf token.children = [cell "A"] ∧ Token.rowsOf token.children = [[cell "x"]] ∧
      (r.assembleTable 0 token).1.alignments = [none, none] ∧
      ¬ (r.assembleTable 0 token).1.IsAligned (Token.columnCells token.children) := by
  intro r cell body head token
  -- The cell of the body stands in front of that of the head.
  have header : Token.headerOf token.children = [cell "A"] := rfl
  have leading : Token.leadingRow token.children = [cell "x"] := rfl
  have entries : (r.assembleTable 0 token).1.alignments = [none, none] := by
    rw [r.alignments_assembleTable, header, leading]
    rfl
  have written : (r.assembleTable 0 token).1.header.length = 1 := by
    rw [(r.writes_assembleTable 0 token).header.length_eq, header]
    rfl
  refine ⟨header, rfl, entries, fun aligned => ?_⟩
  -- Two entries are too many for a header of one cell.
  have count := aligned.headed (List.ne_nil_of_length_pos (written ▸ Nat.one_pos))
  rw [entries, written] at count
  cases count

end Renderer

end Manuscript
