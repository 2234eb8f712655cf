import Manuscript.Proofs.Render.Cut
import Manuscript.Proofs.Render.Descent

/-!
The contents of a tree: the texts that have to be found again in the output, in the order of the
document. What is cut at the depth limit counts as the text that it is cut down to.
-/

namespace Manuscript

namespace Token

/-- The kinds of tokens that hold text. -/
def textKinds : List TokenKind := [.text, .codespan, .inlineMath, .blockMath, .blockCode]

/-- A row of a table is made of cells. -/
def IsRow (row : Token) : Prop :=
  row.kind = .tableRow ∧ ∀ cell ∈ row.children, cell.kind = .tableCell

/-- A table is made of a head of cells and of a body of rows. -/
def IsTable (token : Token) : Prop :=
  ∃ head body, token.children = [head, body] ∧
    (head.kind = .tableHead ∧ ∀ cell ∈ head.children, cell.kind = .tableCell) ∧
    (body.kind = .tableBody ∧ ∀ row ∈ body.children, row.IsRow)

/-- A token as it is read from a document: text, a known construct around others, or a table. -/
structure IsRead (token : Token) : Prop where
  /-- Text is held by some kinds only, and beside nothing else. -/
  raw : token.raw?.isSome → token.kind ∈ textKinds ∧ token.children = []
  /-- The kind has a meaning. -/
  known : token.kind.isUnknown = false
  /-- A table has a head and a body. -/
  table : token.kind = .table → token.IsTable

/-- A token of any other kind holds no text. -/
theorem IsRead.raw?_eq_none {token : Token} (read : token.IsRead)
    (other : token.kind ∉ textKinds) : token.raw? = none := by
  cases raw : token.raw? with
  | none => rfl
  | some text => exact absurd (read.raw (by simp [raw])).1 other

/-- A child of a token stands in its tree. -/
theorem mem_preorder_of_child {token child : Token} (member : child ∈ token.children) :
    child ∈ token.preorder := by
  rw [preorder_eq, preorderAll_eq]
  -- A token comes first, and then its children with all that is inside.
  refine List.mem_cons_of_mem _ (List.mem_flatMap.mpr ⟨child, member, ?_⟩)
  rw [preorder_eq]
  exact List.mem_cons_self

/-- What stands in the tree of a child stands in the tree of its token. -/
theorem preorder_subset_of_child {token child : Token} (member : child ∈ token.children) :
    child.preorder ⊆ token.preorder := by
  intro found inside
  rw [preorder_eq token, preorderAll_eq]
  exact List.mem_cons_of_mem _ (List.mem_flatMap.mpr ⟨child, member, inside⟩)

/-- Header cells that stand in the head itself are the header cells. -/
theorem headCells_of_cells {cells : List Token} (each : ∀ cell ∈ cells, cell.kind = .tableCell) :
    headCells cells = cells := by
  induction cells with
  | nil => rfl
  | cons cell rest ih =>
    obtain ⟨here, others⟩ := List.forall_mem_cons.mp each
    -- A cell stands for itself, and is no row.
    rw [headCells_cons, if_neg (by simp [here]), if_pos here, ih others]

/-- All children of a row are its cells. -/
theorem IsRow.cellsOf_children {row : Token} (isRow : row.IsRow) :
    cellsOf row.children = row.children :=
  List.filter_eq_self.mpr fun cell member => decide_eq_true (isRow.2 cell member)

/-- What comes of the rows of a body comes of all cells of its children. -/
theorem bodyRows_flatMap_of_rows {β : Type} {rows : List Token} (each : ∀ row ∈ rows, row.IsRow)
    (f : Token → List β) :
    ((bodyRows rows).flatMap fun cells => cells.flatMap f) =
      rows.flatMap fun row => row.children.flatMap f := by
  induction rows with
  | nil => rfl
  | cons row rest ih =>
    obtain ⟨here, others⟩ := List.forall_mem_cons.mp each
    rw [bodyRows_cons, here.cellsOf_children, List.flatMap_cons, ← ih others]
    -- A row that is left out has no cells, and nothing comes of it.
    by_cases empty : row.children = [] <;> simp [here.1, empty]

/-- The parts of a table with a head and a body: header cells first, and rows behind them. -/
theorem sectionParts_of_table {token head body : Token} (children : token.children = [head, body])
    (isHead : head.kind = .tableHead ∧ ∀ cell ∈ head.children, cell.kind = .tableCell)
    (isBody : body.kind = .tableBody) :
    token.children.flatMap sectionParts =
      head.children.map headerPart ++ (bodyRows body.children).map rowPart := by
  -- Neither section says anything about the parts of the other, so each is read by itself.
  have header : head.sectionParts = head.children.map headerPart := by
    simp only [sectionParts, isHead.1, headCells_of_cells isHead.2]
  have rows : body.sectionParts = (bodyRows body.children).map rowPart := by
    simp only [sectionParts, isBody]
  rw [children, List.flatMap_cons, List.flatMap_singleton, header, rows]

/-- What comes of the tokens in a table comes of its header cells and then of its rows. -/
theorem inner_flatMap_of_table {β : Type} {token head body : Token} (isTable : token.kind = .table)
    (children : token.children = [head, body])
    (isHead : head.kind = .tableHead ∧ ∀ cell ∈ head.children, cell.kind = .tableCell)
    (isBody : body.kind = .tableBody) (f : Token → List β) :
    token.inner.flatMap f =
      (head.children.flatMap fun cell => cell.children.flatMap f) ++
        (bodyRows body.children).flatMap fun cells => cells.flatMap fun cell =>
          cell.children.flatMap f := by
  -- Of what is inside of a table the cells of the head come first, then the rows one by one.
  have outline : token.outline = .table (token.children.flatMap sectionParts) := by
    unfold Token.outline
    rw [isTable]
  rw [inner_flatMap, outline, sectionParts_of_table children isHead isBody]
  simp only [Outline.contents, List.flatMap_append, List.flatMap_map, List.flatMap_assoc,
    headerPart, rowPart, TablePart.contents, List.flatMap_singleton, List.map_map,
    Function.comp_def]

end Token

namespace Renderer

variable (r : Renderer)

/-- A text as a token of a kind writes it. -/
def ownText (kind : TokenKind) (raw : String) : String :=
  match kind with
  | .text | .codespan => r.escaped raw
  | .blockCode => withoutLastNewline raw
  | _ => raw

/-- The text of a token as it is written, none when the token has no text. -/
def ownContent (token : Token) : List String := (token.raw?.map (r.ownText token.kind)).toList

/-- The texts of a tree as its tokens write them, in the order of the document. -/
def allContents (token : Token) : List String := token.preorder.flatMap r.ownContent

/-- The contents of a tree that is rendered with a number of levels left. -/
def contents (room : Nat) (token : Token) : List String := r.allContents (token.cut room)

/-- The contents of a tree are those of the token and then those of its children. -/
theorem allContents_eq (token : Token) :
    r.allContents token = r.ownContent token ++ token.children.flatMap r.allContents := by
  rw [allContents, Token.preorder_eq, List.flatMap_cons, Token.preorderAll_eq, List.flatMap_assoc]
  rfl

/-- A tree for which no level is left has its plain text for its contents. -/
theorem contents_zero (token : Token) : r.contents 0 token = [r.escaped token.plainText] := rfl

section MapInner

variable {change : Token → Token} {token : Token}

/-- A token without text has the contents of its children, whatever these are changed to. -/
theorem allContents_mapChildren {changeAll : List Token → List Token} (empty : changeAll [] = [])
    (noText : token.raw? = none) :
    r.allContents (token.mapChildren changeAll) =
      (changeAll token.children).flatMap r.allContents := by
  -- The token has no text of its own, so that all is in its children.
  have none : r.ownContent (token.mapChildren changeAll) = [] := by
    simp [ownContent, Token.mapChildren, noText]
  rw [allContents_eq, none, Token.children_mapChildren changeAll empty, List.nil_append]

/-- Cells have the contents of what their children are changed to. -/
theorem allContents_mapCells {cells : List Token}
    (each : ∀ cell ∈ cells, cell.kind = .tableCell ∧ cell.raw? = none) :
    (Token.mapCells change cells).flatMap r.allContents =
      cells.flatMap fun cell => cell.children.flatMap fun below => r.allContents (change below) := by
  induction cells with
  | nil => rfl
  | cons cell rest ih =>
    obtain ⟨⟨isCell, noText⟩, others⟩ := List.forall_mem_cons.mp each
    -- All of them are cells, so that each is changed inside.
    rw [Token.mapCells, List.map_cons, ← Token.mapCells, List.flatMap_cons, List.flatMap_cons,
      ih others, if_pos isCell, r.allContents_mapChildren rfl noText, List.flatMap_map]

/-- A token with text of its own has this for its contents, and nothing is changed below it. -/
theorem allContents_mapInner_of_text {raw : String} (text : token.raw? = some raw)
    (read : token.IsRead) :
    r.allContents (token.mapInner change) =
      r.ownContent token ++ token.inner.flatMap fun below => r.allContents (change below) := by
  obtain ⟨kinds, childless⟩ := read.raw (by simp [text])
  obtain ⟨kind, raw?, children?, attrs⟩ := token
  obtain rfl : raw? = some raw := text
  -- None of the kinds that hold text is that of a table or of one of its parts.
  cases kind
  case text | codespan | inlineMath | blockMath | blockCode =>
    simp [Token.mapInner, allContents_eq, childless, Token.inner, Token.outline, Outline.contents]
  all_goals exact absurd kinds (by simp [Token.textKinds])

/-- A token around others has the contents of what these are changed to. -/
theorem allContents_mapInner_of_around (noText : token.raw? = none) (other : token.kind ≠ .table) :
    r.allContents (token.mapInner change) =
      r.ownContent token ++ token.inner.flatMap fun below => r.allContents (change below) := by
  -- Without a text of its own, and not being a table, the token holds its children and no more.
  have inner : token.inner = token.children := by
    obtain ⟨kind, raw?, children?, attrs⟩ := token
    obtain rfl : raw? = none := noText
    -- Every other kind of token is looked at once.
    cases kind <;>
      first | exact absurd rfl other | simp [Token.inner, Token.outline, Outline.contents]
  have changed : token.mapInner change = token.mapChildren (List.map change) := by
    obtain ⟨kind, raw?, children?, attrs⟩ := token
    obtain rfl : raw? = none := noText
    cases kind <;> first | exact absurd rfl other | rfl
  have own : r.ownContent token = [] := by simp [ownContent, noText]
  rw [changed, r.allContents_mapChildren rfl noText, own, inner, List.flatMap_map,
    List.nil_append]

variable (read : ∀ found ∈ token.preorder, found.IsRead)

include read

/-- A cell below a token has no text. -/
theorem cell_of_child {cell : Token} (member : cell ∈ token.children)
    (isCell : cell.kind = .tableCell) : cell.kind = .tableCell ∧ cell.raw? = none :=
  ⟨isCell, (read cell (Token.mem_preorder_of_child member)).raw?_eq_none
    (by rw [isCell]; decide)⟩

/-- A row below a token has the contents of what is changed in its cells. -/
theorem allContents_mapRow {row : Token} (member : row ∈ token.children) (isRow : row.IsRow) :
    r.allContents (row.mapRow change) =
      row.children.flatMap fun cell =>
        cell.children.flatMap fun below => r.allContents (change below) := by
  have noText := (read row (Token.mem_preorder_of_child member)).raw?_eq_none
    (by rw [isRow.1]; decide)
  have readRow : ∀ found ∈ row.preorder, found.IsRead := fun found inside =>
    read found (Token.preorder_subset_of_child member inside)
  -- A row has no text of its own and keeps its children in its cells, so the change is seen there
  -- only.
  rw [Token.mapRow, if_pos isRow.1, r.allContents_mapChildren rfl noText]
  exact r.allContents_mapCells fun cell inside => cell_of_child readRow inside (isRow.2 cell inside)

/-- A head below a token has the contents of what is changed in its cells. -/
theorem allContents_mapSection_head {head : Token} (member : head ∈ token.children)
    (isHead : head.kind = .tableHead ∧ ∀ cell ∈ head.children, cell.kind = .tableCell) :
    r.allContents (head.mapSection change) =
      head.children.flatMap fun cell =>
        cell.children.flatMap fun below => r.allContents (change below) := by
  -- A head that was read has no text of its own.
  have noText := (read head (Token.mem_preorder_of_child member)).raw?_eq_none
    (by rw [isHead.1]; decide)
  have readHead : ∀ found ∈ head.preorder, found.IsRead := fun found inside =>
    read found (Token.preorder_subset_of_child member inside)
  have changed : head.mapSection change =
      head.mapChildren fun children => (Token.mapCells change children).map (Token.mapRow change) := by
    unfold Token.mapSection
    rw [isHead.1]
  -- No cell is a row, so rows in the head are looked for in vain.
  have noRows : (Token.mapCells change head.children).map (Token.mapRow change) =
      Token.mapCells change head.children := by
    refine (List.map_congr_left fun changed inside => ?_).trans (List.map_id _)
    obtain ⟨cell, inHead, rfl⟩ := List.mem_map.mp inside
    rw [if_pos (isHead.2 cell inHead)]
    exact if_neg (by simp [isHead.2 cell inHead])
  rw [changed, r.allContents_mapChildren rfl noText, noRows]
  exact r.allContents_mapCells fun cell inside =>
    cell_of_child readHead inside (isHead.2 cell inside)

/-- A body below a token has the contents of what is changed in the cells of its rows. -/
theorem allContents_mapSection_body {body : Token} (member : body ∈ token.children)
    (isBody : body.kind = .tableBody ∧ ∀ row ∈ body.children, row.IsRow) :
    r.allContents (body.mapSection change) =
      body.children.flatMap fun row => row.children.flatMap fun cell =>
        cell.children.flatMap fun below => r.allContents (change below) := by
  -- A body has no text of its own, so that its contents are those of its rows.
  have noText := (read body (Token.mem_preorder_of_child member)).raw?_eq_none
    (by rw [isBody.1]; decide)
  have readBody : ∀ found ∈ body.preorder, found.IsRead := fun found inside =>
    read found (Token.preorder_subset_of_child member inside)
  have changed : body.mapSection change = body.mapChildren (List.map (Token.mapRow change)) := by
    unfold Token.mapSection
    rw [isBody.1]
  rw [changed, r.allContents_mapChildren rfl noText, List.flatMap_map]
  exact List.flatMap_congr fun row inside =>
    r.allContents_mapRow readBody inside (isBody.2 row inside)

/-- A table has the contents of what is changed in the cells of its head and of its rows. -/
theorem allContents_mapInner_of_table (isTable : token.kind = .table) :
    r.allContents (token.mapInner change) =
      r.ownContent token ++ token.inner.flatMap fun below => r.allContents (change below) := by
  have noText := (read token token.mem_preorder_self).raw?_eq_none (by rw [isTable]; decide)
  have own : r.ownContent token = [] := by simp [ownContent, noText]
  -- A table that was read is a head with cells in front of a body with rows.
  obtain ⟨head, body, children, isHead, isBody⟩ :=
    (read token token.mem_preorder_self).table isTable
  have headInside : head ∈ token.children := by simp [children]
  have bodyInside : body ∈ token.children := by simp [children]
  -- Only the sections of a table are changed.
  have changed : token.mapInner change =
      token.mapChildren (List.map (Token.mapSection change)) := by
    unfold Token.mapInner
    rw [isTable]
  rw [changed, r.allContents_mapChildren rfl noText, own,
    Token.inner_flatMap_of_table isTable children isHead isBody.1,
    Token.bodyRows_flatMap_of_rows isBody.2, children, List.nil_append,
    List.map_cons, List.map_singleton, List.flatMap_cons, List.flatMap_singleton,
    r.allContents_mapSection_head read headInside isHead,
    r.allContents_mapSection_body read bodyInside isBody]

/-- A token as it is read has its own content, and the contents of what is changed below it. -/
theorem allContents_mapInner :
    r.allContents (token.mapInner change) =
      r.ownContent token ++ token.inner.flatMap fun below => r.allContents (change below) := by
  have here := read token token.mem_preorder_self
  -- A table changes below its cells, a token with a text nowhere, and any other right below itself.
  by_cases isTable : token.kind = .table
  · exact r.allContents_mapInner_of_table read isTable
  cases text : token.raw? with
  | some raw => exact r.allContents_mapInner_of_text text here
  | none => exact r.allContents_mapInner_of_around text isTable

/-- A token above the limit has its own content, and the contents of what is one level below it. -/
theorem contents_succ (room : Nat) :
    r.contents (room + 1) token =
      r.ownContent token ++ token.inner.flatMap (r.contents room) := r.allContents_mapInner read

end MapInner

end Renderer

end Manuscript
