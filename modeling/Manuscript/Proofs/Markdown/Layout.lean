import Manuscript.Proofs.Markdown.Nodes
import Manuscript.Proofs.Token.Levels

/-!
The layout of the tokens of a document: what each token consists of, which tokens stand in which
others, and how the top is put together. Rendering relies on this layout, and a table that did not
have it would lose the cells that are not found where they are looked for.
-/

namespace Manuscript

/-- A kind of token that stands for a block at the top of a document. -/
def TokenKind.isBlock : TokenKind → Bool
  | .heading | .paragraph | .blockCode | .blockQuote | .blockMath | .thematicBreak | .list | .table =>
    true
  | .unknown name => name = "block_html"
  | _ => false

/-- A kind of token around others that can itself stand in any token. -/
def TokenKind.isWrapper : TokenKind → Bool
  | .heading | .paragraph | .blockText | .blockQuote | .emphasis | .strong | .link | .image => true
  | _ => false

/-- A token of a kind can be a child of one of an outer kind. -/
def TokenKind.mayStandIn (kind outer : TokenKind) : Bool :=
  match kind with
  | .listItem => outer = .list
  | .tableHead | .tableBody => outer = .table
  | .tableRow => outer = .tableBody
  | .tableCell => outer = .tableHead ∨ outer = .tableRow
  | _ => true

namespace Token

/-- A token is a cell of a table, which is said to be one of its header or not. -/
def IsCell (isHead : Bool) (token : Token) : Prop :=
  token.kind = .tableCell ∧ token.attrs.get? "head" = some (.bool isHead)

/-- In a token are a head of header cells and a body of rows of other cells, and nothing else. -/
def HasSections (token : Token) : Prop :=
  ∃ head body, token.children = [head, body] ∧
    head.kind = .tableHead ∧ (∀ cell ∈ head.children, cell.IsCell true) ∧
    body.kind = .tableBody ∧
      ∀ row ∈ body.children, row.kind = .tableRow ∧ ∀ cell ∈ row.children, cell.IsCell false

/-- How a token at a depth is laid out. -/
structure LaidOut (depth : Nat) (token : Token) : Prop where
  /-- A mark has neither text nor children, and every other token has one of them. -/
  content : if token.kind.isMark then token.raw? = none ∧ token.children? = none
    else token.raw?.isSome = !token.children?.isSome
  /-- Items, sections, rows and cells stand only in what they are parts of. -/
  inside : ∀ child ∈ token.children, child.kind.mayStandIn token.kind
  /-- A table has a head and a body. -/
  table : token.kind = .table → token.HasSections
  /-- A list has items, which at the depth limit are kept as paragraphs of their text. -/
  list : token.kind = .list → ∀ item ∈ token.children,
    if depth + 1 < maxDepth then item.kind = .listItem
    else ∃ text, item = .parent .paragraph [.ofText text]

variable {depth : Nat}

/-- A token without children is laid out when it is a mark, or a text that is no mark. -/
theorem LaidOut.of_childless {token : Token} (childless : token.children? = none)
    (content : token.raw?.isSome = !token.kind.isMark)
    (other : token.kind ≠ .table) : token.LaidOut depth := by
  obtain ⟨kind, raw?, children?, attrs⟩ := token
  obtain rfl : children? = none := childless
  have nothing : (Token.mk kind raw? none attrs).children = [] := rfl
  refine ⟨?_, by simp [nothing], fun isTable => absurd isTable other, by simp [nothing]⟩
  -- A mark has no text, and any other token has one.
  split <;> simp_all

/-- A token around others is laid out when these may stand in it and it is neither list nor table. -/
theorem LaidOut.of_parent {kind : TokenKind} {children : List Token} {attrs : Attrs}
    (noMark : kind.isMark = false) (noTable : kind ≠ .table) (noList : kind ≠ .list)
    (inside : ∀ child ∈ children, child.kind.mayStandIn kind) :
    (Token.mk kind none (some children) attrs).LaidOut depth := by
  -- What is said of tables and of lists does not matter for any other kind.
  refine ⟨?_, inside, fun isTable => absurd isTable noTable, fun isList => absurd isList noList⟩
  rw [if_neg (by simp [noMark])]
  rfl

/-- A text is laid out at every depth. -/
theorem laidOut_ofText (text : String) : (Token.ofText text).LaidOut depth :=
  .of_childless rfl rfl (by simp [ofText, ofRaw])

/-- A mark is laid out at every depth. -/
theorem laidOut_bare {kind : TokenKind} (isMark : kind.isMark = true) :
    (Token.bare kind).LaidOut depth := by
  refine .of_childless rfl (by simp [bare, isMark]) ?_
  rintro rfl
  cases isMark

/-- The tokens of a document: blocks with one blank line between two of them. -/
structure AreLaidOut (tokens : List Token) : Prop where
  /-- The first token is that of a block, and so is the last one. -/
  ends : tokens ≠ [] → tokens.length % 2 = 1
  /-- Blocks and blank lines take turns. -/
  turns : ∀ position token, tokens[position]? = some token →
    if position % 2 = 0 then token.kind.isBlock else token = .bare .blankLine
  /-- All tokens are laid out, down to the lowest level. -/
  everywhere : ∀ token ∈ tokens, token.Everywhere LaidOut 0

end Token

namespace Markdown

open Manuscript.Token

variable {depth : Nat}

namespace Node

/-- Items are found in lists only. -/
theorem eq_list_of_item_mem_inner {node : Node} {blocks : List (Block (List Inline))}
    (member : .item blocks ∈ node.inner) :
    ∃ ordered tight items, node = .block (.list ordered tight items) := by
  -- In what is no list there are blocks or contents.
  have notAmong {α : Type} {parts : List α} {part : α → Node}
      (other : ∀ a, part a ≠ .item blocks) (member : .item blocks ∈ parts.map part) : False := by
    obtain ⟨a, -, same⟩ := List.mem_map.mp member
    exact other a same
  cases node with
  | item blocks => exact (notAmong (by simp) member).elim
  | inline content => exact (notAmong (by simp) member).elim
  | block held =>
    cases held <;>
      first | exact ⟨_, _, _, rfl⟩ | cases member | exact (notAmong (by simp) member).elim

variable {place : Place} {node : Node} {token : Token}

/-- The kinds of tokens around others, of which those of items and of lists stand for these only. -/
theorem WrapsIn.cases {kind : TokenKind} (wraps : node.WrapsIn kind) :
    kind.isWrapper = true ∨ (kind = .listItem ∧ ∃ blocks, node = .item blocks) ∨
      (kind = .list ∧ ∃ ordered tight items, node = .block (.list ordered tight items)) := by
  -- There are few kinds, and each can be looked at.
  have ofBlock : ∀ kind ∈ [.heading, .paragraph, .blockText, .blockQuote],
      TokenKind.isWrapper kind = true := by decide
  have ofInline : ∀ kind ∈ [.emphasis, .strong, .link, .image],
      TokenKind.isWrapper kind = true := by decide
  cases node with
  | item blocks => exact .inr (.inl ⟨wraps, blocks, rfl⟩)
  | inline content => exact .inl (ofInline kind wraps)
  | block held =>
    -- Of the blocks, lists have a kind of their own, and tables are not wrapped around anything.
    cases held <;>
      first
        | exact .inr (.inr ⟨wraps, _, _, _, rfl⟩)
        | exact wraps.elim
        | exact .inl (ofBlock kind wraps)

/-- The token of a part may stand anywhere, but that of an item only in a list. -/
theorem Form.mayStandIn (form : node.Form place token) {outer : TokenKind}
    (item : ∀ blocks, node = .item blocks → outer = .list) : token.kind.mayStandIn outer := by
  -- Texts, marks and tables are of kinds that may stand anywhere, whatever they stand for.
  cases form with
  | flattened node deep =>
    rcases node.flattened_cases with same | same <;> rw [same] <;> rfl
  | @literal _ kind isLiteral raw attrs =>
    dsimp only
    cases kind <;> first | rfl | cases isLiteral
  | @mark _ kind isMark =>
    dsimp only [Token.bare]
    cases kind <;> first | rfl | cases isMark
  | @around _ kind within shallow wraps deeper attrs =>
    rcases wraps.cases with others | ⟨rfl, blocks, isItem⟩ | ⟨rfl, -⟩
    · cases kind <;> first | rfl | cases others
    · -- An item is the one kind that asks for its place.
      exact decide_eq_true (item blocks isItem)
    · rfl
  | table shallow alignments header rows => rfl

/-- The token of a list is laid out: its items are tokens one level deeper, up to the limit. -/
theorem laidOut_list (within : Place) (deeper : within.depth = depth + 1)
    (items : List (List (Block (List Inline)))) (attrs : Attrs) :
    (Token.mk .list none (some (items.map (itemToken within))) attrs).LaidOut depth := by
  refine ⟨rfl, fun child member => ?_, nofun, fun _ child member => ?_⟩
  · obtain ⟨blocks, -, rfl⟩ := List.mem_map.mp member
    exact (form_itemToken within blocks).mayStandIn fun _ _ => rfl
  · obtain ⟨blocks, -, rfl⟩ := List.mem_map.mp member
    -- An item compares its own depth with the limit, which is one more than that of the list.
    rw [itemToken, deeper]
    by_cases deep : maxDepth ≤ depth + 1
    · rw [if_pos deep, if_neg (Nat.not_lt.mpr deep)]
      exact ⟨_, rfl⟩
    · rw [if_neg deep, if_pos (Nat.not_le.mp deep)]
      rfl

end Node

/-- The token of a cell holds those of its content, and says whether it is one of the header. -/
theorem exists_attrs_cellToken (depth : Nat) (isHead : Bool) (alignment? : Option Alignment)
    (content : List Inline) :
    ∃ attrs, cellToken depth isHead alignment? content =
        ⟨.tableCell, none, some (inlineTokens depth content), attrs⟩ ∧
      attrs.get? "head" = some (.bool isHead) := by
  unfold cellToken
  dsimp only
  -- The alignment of the column is another attribute, and it comes after that of the header.
  split <;> exact ⟨_, rfl, by simp [Token.withAttr, Attrs.get?_insert]⟩

/-- The tokens of the cells of a row are cells, of the header or not. -/
theorem isCell_of_mem_cellTokens {isHead : Bool} {alignments : List Alignment}
    {cells : List (List Inline)} {cell : Token}
    (member : cell ∈ cellTokens depth isHead alignments cells) : cell.IsCell isHead := by
  -- Each of them is the token of one cell, in whatever column that is.
  obtain ⟨content, -, alignment?, rfl⟩ := exists_of_mem_cellTokens member
  obtain ⟨attrs, same, head⟩ := exists_attrs_cellToken depth isHead alignment? content
  rw [same]
  exact ⟨rfl, head⟩

/-- In a table are a head and a body. -/
theorem hasSections_tableToken (depth : Nat) (alignments : List Alignment)
    (header : List (List Inline)) (rows : List (List (List Inline))) :
    (tableToken depth alignments header rows).HasSections := by
  -- The head holds header cells at once, and the body rows of other cells.
  refine ⟨_, _, children_tableToken .., rfl, fun cell member => isCell_of_mem_cellTokens member, rfl,
    fun row member => ?_⟩
  obtain ⟨cells, -, rfl⟩ := List.mem_map.mp member
  exact ⟨rfl, fun cell inside => isCell_of_mem_cellTokens inside⟩

/-- The token of a table is laid out. -/
theorem laidOut_tableToken (place : Nat) (alignments : List Alignment)
    (header : List (List Inline)) (rows : List (List (List Inline))) :
    (tableToken place alignments header rows).LaidOut depth := by
  refine ⟨rfl, fun child member => ?_, fun _ => hasSections_tableToken .., nofun⟩
  -- Both sections may stand in a table.
  rw [children_tableToken] at member
  rcases List.mem_cons.mp member with rfl | inBody
  · rfl
  · rw [List.mem_singleton.mp inBody]
    rfl

/-- The token of a part is laid out. Lists and tables have to be looked at in their own depth. -/
theorem Node.Form.laidOut {place : Place} {node : Node} {token : Token}
    (form : node.Form place token) (aligned : node.isInline = true ∨ place.depth = depth) :
    token.LaidOut depth := by
  cases form with
  | flattened node deep =>
    rcases node.flattened_cases with same | same
    · rw [same]
      exact laidOut_ofText _
    · -- A paragraph of one text has nothing but this text in it.
      rw [same]
      refine .of_parent rfl nofun nofun fun child member => ?_
      rw [List.mem_singleton.mp member]
      rfl
  | @literal _ kind isLiteral raw attrs =>
    refine .of_childless rfl ?_ ?_
    · cases kind <;> first | rfl | cases isLiteral
    · rintro rfl
      cases isLiteral
  | mark isMark => exact laidOut_bare isMark
  | @around _ kind within shallow wraps deeper attrs =>
    -- Items are in lists only, so that what is in any other part may stand anywhere.
    have inside (noList : kind ≠ .list) :
        ∀ child ∈ node.inner.map (Node.token within), child.kind.mayStandIn kind := by
      intro child member
      obtain ⟨part, among, rfl⟩ := List.mem_map.mp member
      refine (Node.form_token within part).mayStandIn fun blocks isItem => ?_
      subst isItem
      obtain ⟨ordered, tight, items, rfl⟩ := Node.eq_list_of_item_mem_inner among
      exact wraps
    rcases wraps.cases with others | ⟨rfl, -⟩ | ⟨rfl, ordered, tight, items, rfl⟩
    · -- What wraps is neither a mark nor a table nor a list, and asks nothing of its own.
      have noMark : kind.isMark = false := by cases kind <;> first | rfl | cases others
      have noTable : kind ≠ .table := by
        rintro rfl
        cases others
      have noList : kind ≠ .list := by
        rintro rfl
        cases others
      exact .of_parent noMark noTable noList (inside noList)
    · exact .of_parent rfl nofun nofun (inside nofun)
    · -- A list counts its depth, which is that of its place.
      have depths : place.depth = depth := aligned.resolve_left nofun
      have laidOut := Node.laidOut_list within (depths ▸ deeper) items attrs
      rwa [show itemToken within = Node.token within ∘ Node.item from rfl, ← List.map_map]
        at laidOut
  | table shallow alignments header rows => exact laidOut_tableToken ..

/--
Running text is laid out all the way down, at whatever depth it stands. So are the other parts at
their own depth, provided that tables are.
-/
theorem everywhere_token_of {place : Place} {node : Node}
    (provided : node.isInline = true ∨ place.depth = depth ∧
      ∀ place depth alignments header rows,
        (tableToken place alignments header rows).Everywhere LaidOut depth) :
    (node.token place).Everywhere LaidOut depth := by
  intro levels found held
  -- Each level leads to a part right inside, which is running text again or one level deeper.
  induction levels generalizing place node depth with
  | zero =>
    obtain rfl : found = node.token place := held
    exact (Node.form_token place node).laidOut (provided.imp_right And.left)
  | succ levels ih =>
    obtain ⟨child, member, further⟩ := held
    rcases (Node.form_token place node).exists_of_mem_children member with
      ⟨-, text, rfl⟩ | ⟨-, part, inside, within, deeper, rfl⟩ |
        ⟨-, noInline, alignments, header, rows, same⟩
    · -- A collapsed part holds a single text.
      obtain ⟨-, rfl⟩ := further.of_childless rfl
      exact laidOut_ofText text
    · rw [Nat.add_comm levels, ← Nat.add_assoc]
      refine ih ?_ further
      rcases provided with isInline | ⟨aligned, tables⟩
      · exact .inl (Node.isInline_of_mem_inner isInline inside)
      · exact .inr ⟨deeper.trans (congrArg (· + 1) aligned), tables⟩
    · -- A table is laid out by itself, all the way down.
      rcases provided with isInline | ⟨-, tables⟩
      · rw [isInline] at noInline
        cases noInline
      · rw [same] at member
        exact tables _ _ _ _ _ (levels + 1) found (.of_child member further)

/-- A cell is laid out all the way down. -/
theorem everywhere_of_mem_cellTokens {place : Nat} {isHead : Bool} {alignments : List Alignment}
    {cells : List (List Inline)} {cell : Token}
    (member : cell ∈ cellTokens place isHead alignments cells) : cell.Everywhere LaidOut depth := by
  obtain ⟨content, -, alignment?, rfl⟩ := exists_of_mem_cellTokens member
  obtain ⟨attrs, same, -⟩ := exists_attrs_cellToken place isHead alignment? content
  have children : inlineTokens place content = content.map (inlineToken place) :=
    inlineTokens_eq_map place content
  rw [same, children]
  -- In a cell there is running text only, and this may stand in anything.
  refine .of_children (.of_parent rfl nofun nofun fun child inside => ?_) fun child inside => ?_
  · obtain ⟨part, -, rfl⟩ := List.mem_map.mp inside
    exact (Node.form_inlineToken { depth := place } part).mayStandIn nofun
  · obtain ⟨part, -, rfl⟩ := List.mem_map.mp inside
    have within : ((Node.inline part).token { depth := place }).Everywhere LaidOut (depth + 1) :=
      everywhere_token_of (.inl rfl)
    exact within

/-- A head or a row, around the cells in it, is laid out all the way down. -/
theorem everywhere_cellTokens {kind : TokenKind} (holdsCells : kind = .tableHead ∨ kind = .tableRow)
    (place depth : Nat) (isHead : Bool) (alignments : List Alignment) (cells : List (List Inline)) :
    (Token.parent kind (cellTokens place isHead alignments cells)).Everywhere LaidOut depth := by
  -- Heads and rows are what cells may stand in.
  have inside : ∀ cell ∈ cellTokens place isHead alignments cells, cell.kind.mayStandIn kind := by
    intro cell member
    rw [(isCell_of_mem_cellTokens member).1]
    exact decide_eq_true holdsCells
  refine .of_children ?_ fun cell member => everywhere_of_mem_cellTokens member
  rcases holdsCells with rfl | rfl
  · exact .of_parent rfl nofun nofun inside
  · exact .of_parent rfl nofun nofun inside

/-- A table is laid out all the way down. -/
theorem everywhere_tableToken (place depth : Nat) (alignments : List Alignment)
    (header : List (List Inline)) (rows : List (List (List Inline))) :
    (tableToken place alignments header rows).Everywhere LaidOut depth := by
  refine .of_children (laidOut_tableToken ..) fun child member => ?_
  rw [children_tableToken] at member
  rcases List.mem_cons.mp member with rfl | inBody
  · -- The head holds its cells at once, and the body holds them in rows.
    exact everywhere_cellTokens (.inl rfl) _ _ true alignments header
  · rw [List.mem_singleton.mp inBody]
    refine .of_children (.of_parent rfl nofun nofun fun row inside => ?_) fun row inside => ?_
    · obtain ⟨cells, -, rfl⟩ := List.mem_map.mp inside
      rfl
    · obtain ⟨cells, -, rfl⟩ := List.mem_map.mp inside
      exact everywhere_cellTokens (.inr rfl) _ _ false alignments cells

/-- The token of a part is laid out all the way down, from the depth that it was made for. -/
theorem everywhere_token (place : Place) (node : Node) :
    (node.token place).Everywhere LaidOut place.depth :=
  everywhere_token_of (.inr ⟨rfl, everywhere_tableToken⟩)

/-- At the top of a document the token of a block is of a kind for blocks. -/
theorem isBlock_blockToken (block : Block (List Inline)) :
    (blockToken {} block).kind.isBlock = true := by
  have shallow : ¬ maxDepth ≤ ({} : Place).depth := by decide
  rw [blockToken.eq_def, if_neg shallow]
  cases block with
  | paragraph content =>
    -- Displayed math is a block of its own kind, and no list is around that could be tight.
    simp only [paragraphToken]
    split <;> rfl
  | code info literal =>
    simp only [codeToken]
    split <;> rfl
  | _ => rfl

/--
The tokens of every document have the layout that rendering relies on: at the top blocks and blank
lines take turns, and below it each token consists of what its kind says.
-/
theorem areLaidOut_tokensOfDocument (document : Document) :
    AreLaidOut (tokensOfDocument document) := by
  refine ⟨fun nonempty => ?_, fun position token found => ?_, fun token member => ?_⟩
  · -- There is one blank line less than there are blocks.
    have some : (blockTokens {} document).length ≠ 0 := by
      intro none
      rw [tokensOfDocument, List.length_eq_zero_iff.mp none] at nonempty
      exact nonempty rfl
    rw [tokensOfDocument, List.length_intersperse]
    omega
  · -- A token at an even position is that of a block, and one at an odd position a blank line.
    rw [tokensOfDocument, List.getElem?_intersperse, blockTokens_eq_map] at found
    split
    · rename_i even
      rw [if_pos even] at found
      obtain ⟨block, -, rfl⟩ := List.mem_map.mp (List.mem_of_getElem? found)
      exact isBlock_blockToken block
    · rename_i odd
      rw [if_neg odd] at found
      split at found
      · exact (Option.some.inj found).symm
      · cases found
  · rcases exists_of_mem_tokensOfDocument member with rfl | ⟨block, -, rfl⟩
    · exact .of_childless rfl (laidOut_bare rfl)
    · exact everywhere_token {} (.block block)

end Markdown

end Manuscript
