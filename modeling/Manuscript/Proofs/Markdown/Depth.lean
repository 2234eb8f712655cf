import Manuscript.Proofs.Markdown.Nodes
import Manuscript.Proofs.Render.Contents
import Manuscript.Proofs.Token.Levels
import Manuscript.Proofs.Token.PlainText
import Mathlib.Logic.Relation

/-!
How deeply the tokens of a document are nested, and what rendering finds at its depth limit. A
document is cut down to its text while its tokens are made, so that rendering has nothing left to
cut; only the parts of a table are let through below the limit.
-/

namespace Manuscript

/-- Below a token without children nothing is rendered. -/
theorem Token.inner_of_childless {token : Token} (childless : token.children = []) :
    token.inner = [] := by
  obtain ⟨kind, raw?, children?, attrs⟩ := token
  -- Whatever its kind is, a token is written from its own text and from its children.
  cases kind <;> cases raw? <;> simp [inner, outline, Outline.contents, childless]

/-- The tokens that are rendered below a table with a head and a body stand in its cells. -/
theorem Token.exists_cell_of_mem_inner {token head body below : Token}
    (isTable : token.kind = .table) (children : token.children = [head, body])
    (isHead : head.kind = .tableHead ∧ ∀ cell ∈ head.children, cell.kind = .tableCell)
    (isBody : body.kind = .tableBody ∧ ∀ row ∈ body.children, row.IsRow)
    (member : below ∈ token.inner) :
    ∃ cell, (cell ∈ head.children ∨ ∃ row ∈ body.children, cell ∈ row.children) ∧
      below ∈ cell.children := by
  -- What is rendered of a table is what its header cells hold and then what its rows hold.
  have whole := inner_flatMap_of_table isTable children isHead isBody.1 fun token => [token]
  rw [bodyRows_flatMap_of_rows isBody.2 fun cell => cell.children.flatMap fun token => [token]]
    at whole
  simp only [List.flatMap_singleton'] at whole
  rw [whole] at member
  rcases List.mem_append.mp member with header | rows
  · -- The header is a single row of cells.
    obtain ⟨cell, inside, held⟩ := List.mem_flatMap.mp header
    exact ⟨cell, .inl inside, held⟩
  · obtain ⟨row, within, cells⟩ := List.mem_flatMap.mp rows
    obtain ⟨cell, inside, held⟩ := List.mem_flatMap.mp cells
    exact ⟨cell, .inr ⟨row, within, inside⟩, held⟩

namespace Markdown

open Manuscript.Token

/-- The tokens of the cells of a row are cells. -/
theorem kind_of_mem_cellTokens {depth : Nat} {isHead : Bool} {alignments : List Alignment}
    {cells : List (List Inline)} {token : Token}
    (member : token ∈ cellTokens depth isHead alignments cells) : token.kind = .tableCell := by
  obtain ⟨content, -, alignment?, rfl⟩ := exists_of_mem_cellTokens member
  exact kind_cellToken ..

/-- The token of a row is a row of cells. -/
theorem isRow_rowToken (depth : Nat) (alignments : List Alignment) (row : List (List Inline)) :
    (rowToken depth alignments row).IsRow :=
  ⟨rfl, fun _ inside => kind_of_mem_cellTokens inside⟩

/-- What is rendered below a table is the token of some content of one of its cells. -/
theorem exists_of_mem_inner_tableToken {depth : Nat} {alignments : List Alignment}
    {header : List (List Inline)} {rows : List (List (List Inline))} {below : Token}
    (member : below ∈ (tableToken depth alignments header rows).inner) :
    ∃ cell ∈ header ++ rows.flatten, ∃ content ∈ cell,
      below = inlineToken (depth + 4) content := by
  -- The parser makes a row of cells out of each row of the table.
  have isBody : ∀ row ∈ (bodyToken (depth + 4) alignments rows).children, row.IsRow := by
    intro row inside
    obtain ⟨cells, -, rfl⟩ := List.mem_map.mp inside
    exact isRow_rowToken ..
  obtain ⟨cell, place, held⟩ := exists_cell_of_mem_inner rfl (children_tableToken ..)
    ⟨rfl, fun _ inside => kind_of_mem_cellTokens inside⟩ ⟨rfl, isBody⟩ member
  -- In a cell are the tokens of its content, so only the cell has to be found in the table.
  rcases place with inside | ⟨row, among, inside⟩
  · obtain ⟨contents, found, rest⟩ := exists_of_mem_children_cellTokens inside held
    exact ⟨contents, List.mem_append_left _ found, rest⟩
  · obtain ⟨cells, given, rfl⟩ := List.mem_map.mp among
    obtain ⟨contents, found, rest⟩ := exists_of_mem_children_cellTokens inside held
    exact ⟨contents, List.mem_append_right _ (List.mem_flatten.mpr ⟨cells, given, found⟩), rest⟩

namespace Node

/-- A part of a document stands in another one, right inside of it or further down. -/
def Within (outer part : Node) : Prop :=
  Relation.ReflTransGen (fun outer part => part ∈ outer.inner) outer part

/-- Below a token around others these are rendered, when it stands for a part that is no table. -/
theorem inner_around {node : Node} {kind : TokenKind} (wraps : node.WrapsIn kind)
    (children : List Token) (attrs : Attrs) :
    (Token.mk kind none (some children) attrs).inner = children := by
  -- Only a block can be a table, and none that is put around others is one.
  have other : kind ≠ .table := by
    rintro rfl
    cases node with
    | block held => cases held <;> simp [WrapsIn] at wraps
    | item blocks => simp [WrapsIn] at wraps
    | inline content => simp [WrapsIn] at wraps
  cases kind <;>
    first | exact absurd rfl other | simp [Token.inner, Token.outline, Outline.contents, Token.children]

/--
What is rendered below the token of a part is the token of a part right inside of it, at a greater
depth. Only running text is moved further down than by one level.
-/
theorem Form.exists_of_mem_inner {place : Place} {node : Node} {token below : Token}
    (form : node.Form place token) (shallow : place.depth < maxDepth) (member : below ∈ token.inner) :
    ∃ part ∈ node.inner, ∃ within, place.depth < within.depth ∧
      (part.isInline = true ∨ within.depth = place.depth + 1) ∧ below = part.token within := by
  cases form with
  -- What is kept as its text stands at the limit and has nothing inside.
  | flattened node deep => omega
  | literal isLiteral raw attrs =>
    rw [inner_of_childless rfl] at member
    cases member
  | mark isMark =>
    rw [inner_of_childless rfl] at member
    cases member
  -- What is inside of a node is one level below it.
  | around shallow wraps deeper attrs =>
    rw [inner_around wraps] at member
    obtain ⟨part, inside, rfl⟩ := List.mem_map.mp member
    exact ⟨part, inside, _, by omega, .inr deeper, rfl⟩
  | table shallow alignments header rows =>
    -- The contents of cells are four levels further inside, and are rendered one level below.
    obtain ⟨cell, among, content, held, rfl⟩ := exists_of_mem_inner_tableToken member
    refine ⟨.inline content, ?_, { place with depth := place.depth + 4 }, ?_, .inl rfl, rfl⟩
    · exact List.mem_map.mpr ⟨content, List.mem_flatten.mpr ⟨cell, among, held⟩, rfl⟩
    · exact Nat.lt_add_of_pos_right (by decide)

/--
What is rendered a number of levels below the token of a part is the token of a part inside of it,
at least so much deeper, as long as no block is looked at beyond the depth limit.
-/
theorem exists_of_reaches {levels : Nat} {place : Place} {node : Node} {found : Token}
    (room : node.isInline = true ∨ place.depth + levels ≤ maxDepth)
    (reached : (node.token place).Reaches levels found) :
    ∃ part within, node.Within part ∧ place.depth + levels ≤ within.depth ∧
      found = part.token within := by
  -- Each level leads from the token of a part to that of a part right inside of it.
  induction levels generalizing place node with
  | zero => exact ⟨node, place, .refl, Nat.le_refl _, reached⟩
  | succ levels ih =>
    obtain ⟨below, member, deeper⟩ := reached
    rcases Nat.lt_or_ge place.depth maxDepth with shallow | deep
    · obtain ⟨part, inside, next, further, step, rfl⟩ :=
        (form_token place node).exists_of_mem_inner shallow member
      have onward : part.isInline = true ∨ next.depth + levels ≤ maxDepth := by
        rcases room with isInline | room
        · exact .inl (isInline_of_mem_inner isInline inside)
        · rcases step with isInline | one
          · exact .inl isInline
          · exact .inr (by omega)
      obtain ⟨last, within, chain, depth, same⟩ := ih onward deeper
      exact ⟨last, within, .head inside chain, by omega, same⟩
    · -- At the limit there is room for running text only, and of this there is nothing below.
      have isInline : node.isInline = true := room.resolve_right (by omega)
      have childless : node.flattened.children = [] := by rw [children_flattened, if_pos isInline]
      rw [token_of_deep deep, inner_of_childless childless] at member
      cases member

/-- What is kept of a part has no other text than that of the part. -/
theorem plainText_flattened (node : Node) : node.flattened.plainText = node.flatText := by
  rw [Token.plainText_eq_rawText]
  cases node <;> simp [flattened, collapsed, flatText, Token.parent, Token.ofText, Token.ofRaw,
    Token.rawText, Token.rawTextAll]

end Node

/-- A part of a document stands in one of its blocks. -/
def Document.Contains (document : Document) (part : Node) : Prop :=
  ∃ block ∈ document, (Node.block block).Within part

/-- A document of one block has the token of this block. -/
theorem mem_tokensOfDocument_singleton (block : Block (List Inline)) :
    blockToken {} block ∈ tokensOfDocument [block] := List.mem_singleton_self _

/-- A block in quotes, a number of times. -/
def quoted : Nat → Block (List Inline) → Block (List Inline)
  | 0, block => block
  | times + 1, block => .quote [quoted times block]

/-- A block in quotes has its token as many levels down, up to the depth limit. -/
theorem exists_token_quoted (place : Place) {times : Nat} (room : place.depth + times ≤ maxDepth)
    (block : Block (List Inline)) :
    ∃ within, within.depth = place.depth + times ∧
      (blockToken place (quoted times block)).Reaches times (blockToken within block) ∧
      (blockToken place (quoted times block)).Holds times (blockToken within block) := by
  -- Each quote is one level, both in the tree and for its rendering.
  induction times generalizing place with
  | zero => exact ⟨place, rfl, rfl, rfl⟩
  | succ times ih =>
    have inside : place.inQuote.depth + times ≤ maxDepth := by
      simp only [Place.inQuote, Place.inner]
      omega
    obtain ⟨within, depth, reached, held⟩ := ih place.inQuote inside
    have quote : blockToken place (quoted (times + 1) block) =
        .parent .blockQuote [blockToken place.inQuote (quoted times block)] := by
      rw [quoted, blockToken, if_neg (by omega), blockTokens_eq_map, List.map_singleton]
    -- The way leads through the quote, whose only child is what it quotes.
    rw [quote]
    refine ⟨within, ?_, ⟨_, ?_, reached⟩, ⟨_, List.mem_singleton_self _, held⟩⟩
    · simp only [depth, Place.inQuote, Place.inner]
      omega
    · simp [Token.parent, Token.inner, Token.outline, Outline.contents, Token.children]

/--
Whatever rendering cuts at its depth limit is the token of a part of the document that was kept as
its text already: a text, or a paragraph of one text. That text is what is written.
-/
theorem flattened_of_reaches {document : Document} {token found : Token}
    (member : token ∈ tokensOfDocument document) (reached : token.Reaches maxDepth found) :
    ∃ node place, document.Contains node ∧ maxDepth ≤ place.depth ∧ found = node.token place ∧
      (found = .ofText node.flatText ∨ found = .parent .paragraph [.ofText node.flatText]) ∧
      ∀ templates options tables,
        (Renderer.ofTemplates templates options).renderToken maxDepth tables found =
          ((Renderer.ofTemplates templates options).text node.flatText, tables) := by
  rcases exists_of_mem_tokensOfDocument member with rfl | ⟨block, inside, rfl⟩
  · -- A blank line has nothing below it, and so it does not reach down to the limit.
    obtain ⟨below, nothing, -⟩ := reached
    rw [inner_of_childless rfl] at nothing
    cases nothing
  · -- Blocks at the top are at depth zero in the document, and are rendered there as well.
    have top : blockToken {} block = (Node.block block).token {} := rfl
    have room : (0 : Nat) + maxDepth ≤ maxDepth := Nat.le_of_eq (Nat.zero_add maxDepth)
    rw [top] at reached
    obtain ⟨node, place, within, depth, rfl⟩ := Node.exists_of_reaches (.inr room) reached
    have deep : maxDepth ≤ place.depth := Nat.le_trans (Nat.le_add_left ..) depth
    have kept := Node.token_of_deep deep node
    refine ⟨node, place, ⟨block, inside, within⟩, deep, rfl, ?_, fun templates options tables => ?_⟩
    · rw [kept]
      exact node.flattened_cases
    · rw [kept, ← node.plainText_flattened]
      exact Renderer.renderToken_of_no_room rfl (Nat.sub_self maxDepth) tables node.flattened

/-- A paragraph in as many quotes as the depth limit allows is rendered as its text. -/
theorem flattened_of_reaches_quoted :
    let block := quoted maxDepth (.paragraph [.text "a", .softBreak, .text "b"])
    blockToken {} block ∈ tokensOfDocument [block] ∧
      (blockToken {} block).Reaches maxDepth (collapsed "a b") ∧
      ∃ node place, Document.Contains [block] node ∧ maxDepth ≤ place.depth ∧
        collapsed "a b" = node.token place ∧
        (collapsed "a b" = .ofText node.flatText ∨
          collapsed "a b" = .parent .paragraph [.ofText node.flatText]) ∧
        ∀ templates options tables,
          (Renderer.ofTemplates templates options).renderToken maxDepth tables (collapsed "a b") =
            ((Renderer.ofTemplates templates options).text node.flatText, tables) := by
  intro block
  have member := mem_tokensOfDocument_singleton block
  -- The paragraph itself stands at the limit, and there it is kept as its text.
  have room : (0 : Nat) + maxDepth ≤ maxDepth := Nat.le_of_eq (Nat.zero_add maxDepth)
  obtain ⟨within, depth, reached, -⟩ :=
    exists_token_quoted {} room (.paragraph [.text "a", .softBreak, .text "b"])
  have deep : maxDepth ≤ within.depth := Nat.le_of_eq ((Nat.zero_add maxDepth).symm.trans depth.symm)
  have text : blockToken within (.paragraph [.text "a", .softBreak, .text "b"]) =
      collapsed "a b" := by
    rw [blockToken, if_pos deep]
    simp [flatBlock, flatTexts, Inline.flatText]
  -- So the rendering comes to the text as deep as it goes.
  rw [text] at reached
  exact ⟨member, reached, flattened_of_reaches member reached⟩

/-- A token of running text is nested no deeper than the limit, unless it stands by itself there. -/
theorem levels_of_isInline {levels : Nat} {place : Place} {node : Node} {found : Token}
    (isInline : node.isInline = true) (held : (node.token place).Holds levels found) :
    levels = 0 ∨ place.depth + levels ≤ maxDepth := by
  -- A content that has others inside stands above the limit, so that these are at the limit at most.
  induction levels generalizing place node with
  | zero => exact .inl rfl
  | succ levels ih =>
    obtain ⟨child, member, deeper⟩ := held
    rcases (Node.form_token place node).exists_of_mem_children member with
      ⟨noInline, -⟩ | ⟨shallow, part, inside, within, next, rfl⟩ | ⟨-, noInline, -⟩
    · rw [isInline] at noInline
      cases noInline
    · -- A content inside of a content, to which the same applies.
      rcases ih (Node.isInline_of_mem_inner isInline inside) deeper with here | below
      · exact .inr (by omega)
      · exact .inr (by omega)
    · rw [isInline] at noInline
      cases noInline

/-- What stands in a cell is its content, and running text further down no deeper than the limit. -/
theorem levels_of_cellToken {depth levels : Nat} {isHead : Bool} {alignments : List Alignment}
    {cells : List (List Inline)} {cell found : Token}
    (member : cell ∈ cellTokens depth isHead alignments cells) (held : cell.Holds levels found) :
    levels ≤ 1 ∨ depth + levels ≤ maxDepth + 1 := by
  cases levels with
  | zero => exact .inl (Nat.zero_le 1)
  | succ levels =>
    -- One step down from the cell stands running text, which bounds the levels that are left.
    obtain ⟨child, inside, deeper⟩ := held
    obtain ⟨_, -, content, -, rfl⟩ := exists_of_mem_children_cellTokens member inside
    rcases levels_of_isInline rfl deeper with here | below
    · exact .inl (by omega)
    · exact .inr (by dsimp only at below; omega)

/-- A table has four levels below it, and more only above the depth limit. -/
theorem levels_of_tableToken {depth levels : Nat} {alignments : List Alignment}
    {header : List (List Inline)} {rows : List (List (List Inline))} {found : Token}
    (held : (tableToken depth alignments header rows).Holds levels found) :
    levels ≤ 4 ∨ depth + levels ≤ maxDepth := by
  -- The way down leads through a section, in the body through a row, and then through a cell.
  match levels, held with
  -- The first levels of a table are few, wherever the table stands.
  | 0, _ => exact .inl (by omega)
  | 1, _ => exact .inl (by omega)
  | levels + 2, ⟨part, inTable, below, inPart, deeper⟩ =>
    rw [children_tableToken] at inTable
    rcases List.mem_cons.mp inTable with rfl | inBody
    · rcases levels_of_cellToken inPart deeper with few | bounded
      · exact .inl (by omega)
      · exact .inr (by omega)
    · obtain rfl := List.mem_singleton.mp inBody
      obtain ⟨row, -, rfl⟩ := List.mem_map.mp inPart
      -- In the body the rows come between, which takes one level more.
      match levels, deeper with
      | 0, _ => exact .inl (by omega)
      | levels + 1, ⟨cell, inRow, further⟩ =>
        rcases levels_of_cellToken inRow further with few | bounded
        · exact .inl (by omega)
        · exact .inr (by omega)

/--
Below the token of a part, up to the depth limit, what is nested more than one level beyond the
limit stands in a table that begins above it, at most four levels down.
-/
theorem levels_of_token {levels : Nat} {place : Place} {node : Node} {found : Token}
    (room : place.depth ≤ maxDepth) (held : (node.token place).Holds levels found) :
    place.depth + levels ≤ maxDepth + 1 ∨
      ∃ outer inner table, outer + inner = levels ∧ (node.token place).Holds outer table ∧
        table.kind = .table ∧ table.Holds inner found ∧ place.depth + outer < maxDepth ∧
        inner ≤ 4 := by
  -- Blocks and items are one level below what they stand in, and a table ends the way down.
  induction levels generalizing place node with
  | zero => exact .inl (by omega)
  | succ levels ih =>
    obtain ⟨child, member, deeper⟩ := held
    rcases (Node.form_token place node).exists_of_mem_children member with
      ⟨-, text, rfl⟩ | ⟨shallow, part, inside, within, next, rfl⟩ |
        ⟨shallow, -, alignments, header, rows, same⟩
    · -- A paragraph that stands at the limit has its text one level further down.
      have bottom := deeper.of_childless rfl
      exact .inl (by omega)
    · rcases ih (by omega) deeper with bounded | ⟨outer, inner, table, sum, above, rest⟩
      · exact .inl (by omega)
      · obtain ⟨isTable, below, begins, few⟩ := rest
        exact .inr ⟨outer + 1, inner, table, by omega, .of_child member above, isTable, below,
          by omega, few⟩
    · -- A table is as deep as it can be, whether it is left above the limit or not.
      have whole : (node.token place).Holds (levels + 1) found := .of_child member deeper
      rw [same] at whole ⊢
      rcases levels_of_tableToken whole with few | bounded
      · exact .inr ⟨0, levels + 1, _, Nat.zero_add _, rfl, rfl, whole, shallow, few⟩
      · exact .inl (by omega)

/--
No token of a document is nested deeper than two levels beyond the depth limit, the tokens at the
top being at level one, but in a table: one that begins at the limit or one level above it has its
parts up to four levels beyond.
-/
theorem levels_tokensOfDocument {document : Document} {token found : Token} {levels : Nat}
    (member : token ∈ tokensOfDocument document) (held : token.Holds levels found) :
    levels + 1 ≤ maxDepth + 2 ∨
      levels + 1 ≤ maxDepth + 4 ∧
        ∃ outer inner table, outer + inner = levels ∧ token.Holds outer table ∧
          table.kind = .table ∧ table.Holds inner found ∧
          (outer + 1 = maxDepth - 1 ∨ outer + 1 = maxDepth) := by
  rcases exists_of_mem_tokensOfDocument member with rfl | ⟨block, -, rfl⟩
  · -- A blank line stands by itself at the top.
    have bottom := held.of_childless rfl
    exact .inl (by omega)
  · have top : blockToken {} block = (Node.block block).token {} := rfl
    rw [top] at held ⊢
    have start : ({} : Place).depth = 0 := rfl
    by_cases bounded : levels + 1 ≤ maxDepth + 2
    · exact .inl bounded
    · rcases levels_of_token (Nat.zero_le maxDepth) held with
        within | ⟨outer, inner, table, sum, above, isTable, below, begins, few⟩
      · -- Only below a table at the end of the levels there are more of them.
        exact absurd (by omega) bounded
      · exact .inr ⟨by omega, outer, inner, table, sum, above, isTable, below, by omega⟩

/-- A table of one column with one row below its header. -/
def smallTable : Block (List Inline) := .table [.unspecified] [[.text "a"]] [[[.text "b"]]]

/-- In one quote less than the depth limit allows, a table has the text of a cell far beyond it. -/
theorem holds_quoted_smallTable :
    (blockToken {} (quoted (maxDepth - 1) smallTable)).Holds (maxDepth + 3) (.ofText "b") := by
  have room : 0 + (maxDepth - 1) ≤ maxDepth := by decide
  obtain ⟨within, depth, -, held⟩ := exists_token_quoted {} room smallTable
  -- The table stands right above the limit, so that it is kept as a table.
  have shallow : ¬ maxDepth ≤ within.depth := by
    rw [depth]
    decide
  have table : blockToken within smallTable =
      tableToken within.depth [.unspecified] [[.text "a"]] [[[.text "b"]]] := by
    rw [smallTable, blockToken, if_neg shallow]
  have content : inlineTokens (within.depth + 4) [.text "b"] = [.ofText "b"] := by
    rw [depth]
    rfl
  -- From the table the way leads through its body, the row and the cell to the text.
  have inside : (tableToken within.depth [.unspecified] [[.text "a"]] [[[.text "b"]]]).Holds 4
      (.ofText "b") := by
    refine ⟨_, List.mem_cons_of_mem _ (List.mem_singleton_self _), _, List.mem_singleton_self _, _,
      List.mem_singleton_self _, .ofText "b", ?_, rfl⟩
    rw [List.head?_cons, children_cellToken, content]
    exact List.mem_singleton_self _
  rw [table] at held
  exact held.trans inside

/-- The text of that cell is nested four levels beyond the limit, in a table that begins at it. -/
theorem levels_tokensOfDocument_smallTable :
    let block := quoted (maxDepth - 1) smallTable
    blockToken {} block ∈ tokensOfDocument [block] ∧
      (blockToken {} block).Holds (maxDepth + 3) (.ofText "b") ∧
      (maxDepth + 3 + 1 ≤ maxDepth + 2 ∨
        maxDepth + 3 + 1 ≤ maxDepth + 4 ∧
          ∃ outer inner table, outer + inner = maxDepth + 3 ∧
            (blockToken {} block).Holds outer table ∧ table.kind = .table ∧
            table.Holds inner (.ofText "b") ∧ (outer + 1 = maxDepth - 1 ∨ outer + 1 = maxDepth)) :=
  ⟨mem_tokensOfDocument_singleton _, holds_quoted_smallTable,
    levels_tokensOfDocument (mem_tokensOfDocument_singleton _) holds_quoted_smallTable⟩

/-- Two levels beyond the limit are not enough for every document. -/
theorem levels_tokensOfDocument_exceeded :
    ¬ ∀ (document : Document) (token found : Token) (levels : Nat),
      token ∈ tokensOfDocument document → token.Holds levels found →
        levels + 1 ≤ maxDepth + 2 := by
  intro bounded
  -- The text in the cell is three levels too deep.
  have two := bounded _ _ _ _ (mem_tokensOfDocument_singleton _) holds_quoted_smallTable
  exact absurd two (by decide)

end Markdown

end Manuscript
