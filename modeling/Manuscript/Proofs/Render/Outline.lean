import Manuscript.Proofs.Render.Thread

/-!
The outline of a token: which lists of tokens inside of it are rendered and in which order, and
what is written from the texts that they give. Above the depth limit a token is rendered along its
outline, tables like all others.
-/

namespace Manuscript

/-- A header cell or a row of a table, over what stands for the content of a cell. -/
inductive TablePart (α : Type) where
  /-- A cell of the header. -/
  | header (attrs : Attrs) (content : α)
  /-- The cells of a row of the body. -/
  | row (cells : List (Attrs × α))

/-- How a token is written, over what stands for the lists of tokens inside of it. -/
inductive Outline (α : Type) where
  /-- A construct with a text of its own. -/
  | leaf (text : String)
  /-- A construct around the tokens inside of it. -/
  | around (content : α)
  /-- The tokens inside of it, one after another. -/
  | sequence (content : α)
  /-- A cell that stands by itself. -/
  | cell (content : α)
  /-- A table with what is assembled for it. -/
  | table (parts : List (TablePart α))

/-- A table or one of its parts. -/
def TokenKind.inTable : TokenKind → Bool
  | .table | .tableHead | .tableBody | .tableRow | .tableCell => true
  | _ => false

variable {α β γ : Type}

namespace TablePart

/-- The contents of the cells of a part. -/
def contents : TablePart α → List α
  | .header _ content => [content]
  | .row cells => cells.map (·.2)

/-- A part with its contents changed. -/
def map (change : α → β) : TablePart α → TablePart β
  | .header attrs content => .header attrs (change content)
  | .row cells => .row (cells.map fun cell => (cell.1, change cell.2))

/-- Parts with other contents in place of theirs, taken in order. -/
def refill : List (TablePart α) → List β → List (TablePart β)
  | .header attrs _ :: rest, content :: others => .header attrs content :: refill rest others
  | .row cells :: rest, contents =>
    .row ((cells.map (·.1)).zip (contents.take cells.length)) ::
      refill rest (contents.drop cells.length)
  | _, _ => []

/-- Changing the contents of a part changes each of them. -/
@[simp] theorem contents_map (change : α → β) (part : TablePart α) :
    (part.map change).contents = part.contents.map change := by
  cases part <;> simp [map, contents]

/-- What is put in place of the contents does not depend on what they were. -/
theorem refill_map (change : α → β) (parts : List (TablePart α)) (contents : List γ) :
    refill (parts.map (map change)) contents = refill parts contents := by
  induction parts generalizing contents with
  | nil => cases contents <;> rfl
  | cons part rest ih =>
    -- A header takes the next content, if one is left, and a row as many as it has cells.
    cases part with
    | header attrs content => cases contents <;> simp [map, refill, ih]
    | row cells => simp [map, refill, ih, Function.comp_def]

/-- The first parts take as many contents as they have, and the others what is left. -/
theorem refill_append (front back : List (TablePart α)) {contents others : List β}
    (size : contents.length = (front.flatMap TablePart.contents).length) :
    refill (front ++ back) (contents ++ others) = refill front contents ++ refill back others := by
  induction front generalizing contents with
  | nil =>
    have empty : contents = [] := List.eq_nil_of_length_eq_zero (by simpa using size)
    subst empty
    simp [refill]
  | cons part rest ih =>
    cases part with
    | header attrs content =>
      cases contents with
      -- There is a content for each of the parts in front.
      | nil => simp [TablePart.contents] at size
      | cons first more => simp [refill, ih (by simpa [TablePart.contents] using size)]
    | row cells =>
      simp only [List.flatMap_cons, TablePart.contents, List.length_append, List.length_map] at size
      -- The cells of the row are filled from the front of the contents.
      have front : (contents ++ others).take cells.length = contents.take cells.length :=
        List.take_append_of_le_length (by omega)
      have behind : (contents ++ others).drop cells.length =
          contents.drop cells.length ++ others := List.drop_append_of_le_length (by omega)
      simp only [List.cons_append, refill, front, behind]
      rw [ih (by simp only [List.length_drop]; omega)]

end TablePart

namespace Outline

/-- The lists of tokens inside, in the order in which they are rendered. -/
def contents : Outline α → List α
  | .leaf _ => []
  | .around content | .sequence content | .cell content => [content]
  | .table parts => parts.flatMap TablePart.contents

/-- An outline with its contents changed. -/
def map (change : α → β) : Outline α → Outline β
  | .leaf text => .leaf text
  | .around content => .around (change content)
  | .sequence content => .sequence (change content)
  | .cell content => .cell (change content)
  | .table parts => .table (parts.map (TablePart.map change))

/-- An outline with the texts that its contents gave. -/
def refill : Outline α → List String → Outline String
  | .leaf text, _ => .leaf text
  | .around _, texts => .around (texts.headD "")
  | .sequence _, texts => .sequence (texts.headD "")
  | .cell _, texts => .cell (texts.headD "")
  | .table parts, texts => .table (TablePart.refill parts texts)

/-- Changing the contents of an outline changes each of them. -/
@[simp] theorem contents_map (change : α → β) (outline : Outline α) :
    (outline.map change).contents = outline.contents.map change := by
  cases outline <;> simp [map, contents, List.map_flatMap, List.flatMap_map]

/-- The texts are put in place of the contents whatever these were. -/
@[simp] theorem refill_map (change : α → β) (outline : Outline α) (texts : List String) :
    (outline.map change).refill texts = outline.refill texts := by
  cases outline <;> simp [map, refill, TablePart.refill_map]

end Outline

namespace Token

/-- The cells among tokens. -/
def cellsOf (tokens : List Token) : List Token := tokens.filter (·.kind = .tableCell)

/-- The cells of a head, which stand in it or in rows of it. -/
def headCells (children : List Token) : List Token :=
  cellsOf (children.flatMap fun child =>
    if child.kind = .tableRow then child.children else [child])

/-- The rows of a body by their cells; rows without cells are left out. -/
def bodyRows (children : List Token) : List (List Token) :=
  ((children.filter (·.kind = .tableRow)).map fun row => cellsOf row.children).filter (· ≠ [])

/-- The first of some tokens is one of their cells when it is a cell. -/
theorem cellsOf_cons (token : Token) (rest : List Token) :
    cellsOf (token :: rest) =
      if token.kind = .tableCell then token :: cellsOf rest else cellsOf rest := by
  by_cases isCell : token.kind = .tableCell <;> simp [cellsOf, isCell]

/-- Cells of the first tokens come before those of the others. -/
theorem cellsOf_append (front back : List Token) :
    cellsOf (front ++ back) = cellsOf front ++ cellsOf back := List.filter_append ..

/-- The first child of a head is a row with cells, a cell, or left out. -/
theorem headCells_cons (token : Token) (rest : List Token) :
    headCells (token :: rest) =
      if token.kind = .tableRow then cellsOf token.children ++ headCells rest
      else if token.kind = .tableCell then token :: headCells rest else headCells rest := by
  rw [headCells, List.flatMap_cons, cellsOf_append, ← headCells]
  by_cases isRow : token.kind = .tableRow
  · simp only [if_pos isRow]
  -- A child that is no row gives itself if it is a cell, as the cells of a row do.
  · simp only [if_neg isRow, cellsOf_cons]
    by_cases isCell : token.kind = .tableCell <;> simp [isCell, cellsOf]

/-- The first child of a body is a row with cells, or left out. -/
theorem bodyRows_cons (token : Token) (rest : List Token) :
    bodyRows (token :: rest) =
      if token.kind = .tableRow ∧ cellsOf token.children ≠ [] then
        cellsOf token.children :: bodyRows rest
      else bodyRows rest := by
  -- What is no row, or has no cells, is left out.
  by_cases isRow : token.kind = .tableRow
  · by_cases empty : cellsOf token.children = [] <;> simp [bodyRows, isRow, empty]
  · simp [bodyRows, isRow]

/-- A header cell as a part of its table. -/
def headerPart (cell : Token) : TablePart (List Token) := .header cell.attrs cell.children

/-- A row as a part of its table. -/
def rowPart (cells : List Token) : TablePart (List Token) :=
  .row (cells.map fun cell => (cell.attrs, cell.children))

/-- What a section adds to its table; other tokens in a table add nothing. -/
def sectionParts (part : Token) : List (TablePart (List Token)) :=
  match part.kind with
  | .tableHead => (headCells part.children).map headerPart
  | .tableBody => (bodyRows part.children).map rowPart
  | _ => []

/-- The outline of a token: what is written of it when it is not too deep. -/
def outline (token : Token) : Outline (List Token) :=
  match token.kind with
  | .table => .table (token.children.flatMap sectionParts)
  | .tableHead | .tableBody | .tableRow => .sequence token.children
  | .tableCell => .cell token.children
  | _ =>
    match token.raw? with
    | some raw => .leaf raw
    | none => .around token.children

/-- The outline of a token of each kind. -/
theorem outline_cases (token : Token) :
    (token.kind = .table ∧ token.outline = .table (token.children.flatMap sectionParts)) ∨
      (token.kind.inTable = true ∧ token.kind ≠ .table ∧
        (token.outline = .sequence token.children ∨ token.outline = .cell token.children)) ∨
      (token.kind.inTable = false ∧
        ((∃ raw, token.outline = .leaf raw) ∨ token.outline = .around token.children)) := by
  obtain ⟨kind, raw?, children?, attrs⟩ := token
  -- The kind decides, and then whether there is a text of its own.
  cases kind <;> cases raw? <;> simp [outline, TokenKind.inTable, children]

/-- A token that is written as its own text has this text. -/
theorem raw?_of_outline {token : Token} {raw : String} (outline : token.outline = .leaf raw) :
    token.raw? = some raw := by
  obtain ⟨kind, raw?, children?, attrs⟩ := token
  cases kind <;> cases raw? <;> simp_all [Token.outline]

/-- A token that is written around others has no text of its own. -/
theorem raw?_of_outline_around {token : Token} {content : List Token}
    (outline : token.outline = .around content) : token.raw? = none := by
  obtain ⟨kind, raw?, children?, attrs⟩ := token
  cases kind <;> cases raw? <;> simp_all [Token.outline]

/-- The tokens that are rendered one level below a token, in order. -/
def inner (token : Token) : List Token := token.outline.contents.flatten

/-- What comes of the tokens one level below a token comes of its lists of them, in order. -/
theorem inner_flatMap (token : Token) (f : Token → List β) :
    token.inner.flatMap f = token.outline.contents.flatMap fun tokens => tokens.flatMap f := by
  rw [inner, ← List.flatMap_id, List.flatMap_assoc]
  rfl

/-- How many numbers a token takes for itself. -/
def ownNumbers (token : Token) : Nat := if token.kind = .table then 1 else 0

end Token

namespace Renderer

variable (r : Renderer)

/-- A table with one more of its parts. -/
def addPart (table : TableAssembly) : TablePart String → TableAssembly
  | .header attrs content =>
    { table with
      header := table.header ++ [r.strong content]
      alignments := table.alignments ++ [attrs.text? "align"] }
  | .row cells =>
    { table with
      rows := table.rows ++ [cells.map fun cell => r.cellText cell.1 cell.2]
      -- Without a header the first row tells how the columns are aligned.
      alignments :=
        if table.header.isEmpty && table.rows.isEmpty then
          cells.map fun cell => cell.1.text? "align"
        else table.alignments }

/-- What is written along the outline of a token; a table is written with its number. -/
def write (number : Nat) (kind : TokenKind) (attrs : Attrs) : Outline String → String
  | .leaf text => r.construct kind attrs text
  | .around content => r.construct kind attrs content
  | .sequence content => content
  | .cell content => r.cellText attrs content
  | .table parts => r.tableBlock number (parts.foldl r.addPart {})

end Renderer

end Manuscript
