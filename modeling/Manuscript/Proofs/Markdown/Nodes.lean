import Manuscript.Markdown.Tokens

/-!
The parts of a document that have a token of their own, and the form that such a token can have:
above the depth limit it is a text, a mark, a table, or a token around those of the parts inside.
-/

namespace Manuscript

/-- A kind of token that is written as its own text. -/
def TokenKind.isLiteral : TokenKind → Bool
  | .text | .codespan | .inlineMath | .blockMath | .blockCode | .unknown _ => true
  | _ => false

/-- A kind of token that says all there is to say by itself. -/
def TokenKind.isMark : TokenKind → Bool
  | .blankLine | .thematicBreak | .softbreak | .linebreak => true
  | _ => false

namespace Markdown

/-- A part of a document that has a token of its own. -/
inductive Node where
  | block (block : Block (List Inline))
  | item (blocks : List (Block (List Inline)))
  | inline (content : Inline)

/-- The contents right inside of inline content. -/
def Inline.inner : Inline → List Inline
  | .emphasis content | .strong content | .link _ content | .image _ content => content
  | _ => []

/-- The token of a list item at a place. -/
def itemToken (place : Place) (blocks : List (Block (List Inline))) : Token :=
  if maxDepth ≤ place.depth then collapsed (flatBlocks blocks)
  else .parent .listItem (blockTokens place.inner blocks)

/-- The token of the head of a table, whose cells hold tokens at a depth. -/
def headToken (depth : Nat) (alignments : List Alignment) (header : List (List Inline)) : Token :=
  .parent .tableHead (cellTokens depth true alignments header)

/-- The token of a row of a table. -/
def rowToken (depth : Nat) (alignments : List Alignment) (row : List (List Inline)) : Token :=
  .parent .tableRow (cellTokens depth false alignments row)

/-- The token of the body of a table. -/
def bodyToken (depth : Nat) (alignments : List Alignment) (rows : List (List (List Inline))) :
    Token :=
  .parent .tableBody (rows.map (rowToken depth alignments))

namespace Node

/-- Running text has no blocks in it. -/
def isInline : Node → Bool
  | .inline _ => true
  | _ => false

/-- The literal text of a part. -/
def flatText : Node → String
  | .block held => flatBlock held
  | .item blocks => flatBlocks blocks
  | .inline content => content.flatText

/-- The token that stands for a part of which only the text is kept. -/
def flattened : Node → Token
  | .inline content => .ofText content.flatText
  | node => collapsed node.flatText

/-- The token of a part at a place. -/
def token (place : Place) : Node → Token
  | .block held => blockToken place held
  | .item blocks => itemToken place blocks
  | .inline content => inlineToken place.depth content

/-- The parts right inside of a part; in a table these are the contents of its cells. -/
def inner : Node → List Node
  | .block (.heading _ content) | .block (.paragraph content) => content.map .inline
  | .block (.quote blocks) => blocks.map .block
  | .block (.list _ _ items) => items.map .item
  | .block (.table _ header rows) => (header ++ rows.flatten).flatten.map .inline
  | .block _ => []
  | .item blocks => blocks.map .block
  | .inline content => content.inner.map .inline

/-- A token of a kind can stand for a part, around the tokens of what is inside of this. -/
def WrapsIn : Node → TokenKind → Prop
  | .inline _, kind => kind ∈ [.emphasis, .strong, .link, .image]
  | .item _, kind => kind = .listItem
  | .block (.list ..), kind => kind = .list
  | .block (.table ..), _ => False
  | .block _, kind => kind ∈ [.heading, .paragraph, .blockText, .blockQuote]

/-- The forms that the token of a part can have at a place. -/
inductive Form (place : Place) : Node → Token → Prop
  /-- From the depth limit on only the text of a part is kept. -/
  | flattened (node : Node) (deep : maxDepth ≤ place.depth) : Form place node node.flattened
  /-- The part is a text. -/
  | literal {node : Node} {kind : TokenKind} (isLiteral : kind.isLiteral = true) (raw : String)
      (attrs : Attrs) : Form place node ⟨kind, some raw, none, attrs⟩
  /-- The part is known by its kind. -/
  | mark {node : Node} {kind : TokenKind} (isMark : kind.isMark = true) :
      Form place node (.bare kind)
  /-- The part holds others, whose tokens are one level deeper. -/
  | around {node : Node} {kind : TokenKind} {within : Place} (shallow : place.depth < maxDepth)
      (wraps : node.WrapsIn kind) (deeper : within.depth = place.depth + 1) (attrs : Attrs) :
      Form place node ⟨kind, none, some (node.inner.map (token within)), attrs⟩
  /-- The part is a table. -/
  | table (shallow : place.depth < maxDepth) (alignments : List Alignment)
      (header : List (List Inline)) (rows : List (List (List Inline))) :
      Form place (.block (.table alignments header rows))
        (tableToken place.depth alignments header rows)

end Node

/-- Each content has its token. -/
theorem inlineTokens_eq_map (depth : Nat) (contents : List Inline) :
    inlineTokens depth contents = contents.map (inlineToken depth) := by
  induction contents with
  | nil => rfl
  | cons content rest ih => rw [inlineTokens, ih, List.map_cons]

/-- Each block has its token. -/
theorem blockTokens_eq_map (place : Place) (blocks : List (Block (List Inline))) :
    blockTokens place blocks = blocks.map (blockToken place) := by
  induction blocks with
  | nil => rfl
  | cons block rest ih => rw [blockTokens, ih, List.map_cons]

/-- Each item of a list has its token. -/
theorem itemTokens_eq_map (place : Place) (items : List (List (Block (List Inline)))) :
    itemTokens place items = items.map (itemToken place) := by
  induction items with
  | nil => rfl
  | cons item rest ih => rw [itemTokens, ih, List.map_cons, itemToken]

/-- The tokens of the cells of a row are each the token of one of its cells. -/
theorem exists_of_mem_cellTokens {depth : Nat} {isHead : Bool} {alignments : List Alignment}
    {cells : List (List Inline)} {token : Token}
    (member : token ∈ cellTokens depth isHead alignments cells) :
    ∃ content ∈ cells, ∃ alignment?, token = cellToken depth isHead alignment? content := by
  -- Cells and alignments are used up together, from the first column on.
  induction cells generalizing alignments with
  | nil => cases member
  | cons cell rest ih =>
    rcases List.mem_cons.mp member with here | later
    · exact ⟨cell, List.mem_cons_self, _, here⟩
    · obtain ⟨content, inside, alignment?, same⟩ := ih later
      exact ⟨content, List.mem_cons_of_mem cell inside, alignment?, same⟩

/-- The token of a cell is a cell. -/
theorem kind_cellToken (depth : Nat) (isHead : Bool) (alignment? : Option Alignment)
    (content : List Inline) :
    (cellToken depth isHead alignment? content).kind = .tableCell := by
  unfold cellToken
  dsimp only
  -- An attribute more or less is no other kind.
  split <;> rfl

/-- In a table are its head and its body, with the content of cells four levels further inside. -/
theorem children_tableToken (depth : Nat) (alignments : List Alignment)
    (header : List (List Inline)) (rows : List (List (List Inline))) :
    (tableToken depth alignments header rows).children =
      [headToken (depth + 4) alignments header, bodyToken (depth + 4) alignments rows] := rfl

/-- In a cell are the tokens of its content, whatever is said of its column. -/
theorem children_cellToken (depth : Nat) (isHead : Bool) (alignment? : Option Alignment)
    (content : List Inline) :
    (cellToken depth isHead alignment? content).children = inlineTokens depth content := by
  unfold cellToken
  dsimp only
  -- Nor does it change the children.
  split <;> rfl

/-- What is in the cells of a row are the tokens of their contents, as parts at the depth that these
are made for. -/
theorem exists_of_mem_children_cellTokens {depth : Nat} {isHead : Bool}
    {alignments : List Alignment} {cells : List (List Inline)} {cell child : Token}
    (member : cell ∈ cellTokens depth isHead alignments cells) (inside : child ∈ cell.children) :
    ∃ contents ∈ cells, ∃ content ∈ contents, child = (Node.inline content).token { depth } := by
  -- A cell holds the tokens of one list of contents, and the child is one of these.
  obtain ⟨contents, among, alignment?, rfl⟩ := exists_of_mem_cellTokens member
  rw [children_cellToken, inlineTokens_eq_map] at inside
  obtain ⟨content, within, rfl⟩ := List.mem_map.mp inside
  exact ⟨contents, among, content, within, rfl⟩

namespace Node

variable {place : Place}

/-- A token around those of the parts inside, however these are written out. -/
theorem Form.of_children {node : Node} (kind : TokenKind) {within : Place} {children : List Token}
    (shallow : place.depth < maxDepth) (wraps : node.WrapsIn kind)
    (deeper : within.depth = place.depth + 1) (attrs : Attrs)
    (same : children = node.inner.map (token within)) :
    Form place node ⟨kind, none, some children, attrs⟩ := by
  -- The children are those that the form speaks of.
  subst same
  exact .around shallow wraps deeper attrs

/-- The tokens of contents are those of the parts that they are. -/
theorem inlineTokens_eq_token (within : Place) (contents : List Inline) :
    inlineTokens within.depth contents = (contents.map Node.inline).map (token within) := by
  rw [inlineTokens_eq_map, List.map_map]
  rfl

/-- The tokens of blocks are those of the parts that they are. -/
theorem blockTokens_eq_token (within : Place) (blocks : List (Block (List Inline))) :
    blockTokens within blocks = (blocks.map Node.block).map (token within) := by
  rw [blockTokens_eq_map, List.map_map]
  rfl

/-- The token of a link or an image is one around the tokens of its content. -/
theorem form_targetToken {kind : TokenKind} (shallow : place.depth < maxDepth)
    (content : Inline) (wraps : (Node.inline content).WrapsIn kind) (target : Target) :
    Form place (.inline content)
      (targetToken kind target (inlineTokens (place.depth + 1) content.inner)) := by
  -- The address and the title are attributes, and change nothing else.
  have children := inlineTokens_eq_token place.inner content.inner
  unfold targetToken withTitle
  split <;> exact .of_children kind shallow wraps rfl _ children

/-- The token of inline content has one of the forms. -/
theorem form_inlineToken (place : Place) (content : Inline) :
    Form place (.inline content) (inlineToken place.depth content) := by
  have children := inlineTokens_eq_token place.inner content.inner
  unfold inlineToken
  split
  -- At the depth limit only the text is kept.
  case isTrue deep => exact .flattened (.inline content) deep
  case isFalse shallow =>
    have shallow : place.depth < maxDepth := Nat.not_le.mp shallow
    cases content with
    | text text => exact .literal rfl text .empty
    | code literal => exact .literal rfl literal .empty
    | math display literal => cases display <;> exact .literal rfl literal .empty
    | html literal => exact .literal rfl literal .empty
    -- A break is told by its kind alone.
    | softBreak => exact .mark rfl
    | lineBreak => exact .mark rfl
    | emphasis inner => exact .of_children .emphasis shallow (by simp [WrapsIn]) rfl .empty children
    | strong inner => exact .of_children .strong shallow (by simp [WrapsIn]) rfl .empty children
    | link target inner =>
      exact form_targetToken shallow (.link target inner) (by simp [WrapsIn]) target
    | image target inner =>
      exact form_targetToken shallow (.image target inner) (by simp [WrapsIn]) target

/-- The token of a paragraph has one of the forms, displayed math on its own being a text. -/
theorem form_paragraphToken (shallow : place.depth < maxDepth) (content : List Inline) :
    Form place (.block (.paragraph content)) (paragraphToken place content) := by
  -- A paragraph of displayed math alone is a text; any other one is put around its content.
  unfold paragraphToken
  split
  · exact .literal rfl _ .empty
  · have wraps : (Node.block (.paragraph content)).WrapsIn
        (if place.tight then .blockText else .paragraph) := by
      split <;> simp [WrapsIn]
    exact .of_children _ shallow wraps rfl .empty (inlineTokens_eq_token place.inner content)

/-- The token of a code block is a text, whatever its language is. -/
theorem form_codeToken (node : Node) (info literal : String) :
    Form place node (codeToken info literal) := by
  unfold codeToken
  dsimp only
  split <;> exact .literal rfl literal _

/-- The token of a block has one of the forms. -/
theorem form_blockToken (place : Place) (block : Block (List Inline)) :
    Form place (.block block) (blockToken place block) := by
  unfold blockToken
  split
  -- At the depth limit only the text is kept.
  case isTrue deep => exact .flattened (.block block) deep
  case isFalse shallow =>
    have shallow : place.depth < maxDepth := Nat.not_le.mp shallow
    cases block with
    | heading level content =>
      exact .of_children .heading shallow (by simp [WrapsIn]) rfl _
        (inlineTokens_eq_token place.inner content)
    | paragraph content => exact form_paragraphToken shallow content
    | code info literal => exact form_codeToken _ info literal
    | html literal => exact .literal rfl literal .empty
    | thematicBreak => exact .mark rfl
    | quote content =>
      exact .of_children .blockQuote shallow (by simp [WrapsIn]) rfl .empty
        (blockTokens_eq_token place.inQuote content)
    | list ordered tight items =>
      -- Items are parts of their own, one level below the list.
      have children : itemTokens (place.inList tight) items =
          (items.map Node.item).map (token (place.inList tight)) := by
        rw [itemTokens_eq_map, List.map_map]
        rfl
      exact .of_children .list shallow (by simp [WrapsIn]) rfl _ children
    | table alignments header rows => exact .table shallow alignments header rows

/-- The token of a list item has one of the forms. -/
theorem form_itemToken (place : Place) (blocks : List (Block (List Inline))) :
    Form place (.item blocks) (itemToken place blocks) := by
  unfold itemToken
  split
  -- At the depth limit only the text is kept.
  case isTrue deep => exact .flattened (.item blocks) deep
  case isFalse shallow =>
    exact .of_children .listItem (Nat.not_le.mp shallow) (by simp [WrapsIn]) rfl .empty
      (blockTokens_eq_token place.inner blocks)

/-- The token of every part has one of the forms, at every place. -/
theorem form_token (place : Place) (node : Node) : Form place node (node.token place) := by
  cases node with
  | block block => exact form_blockToken place block
  | item blocks => exact form_itemToken place blocks
  | inline content => exact form_inlineToken place content

/-- From the depth limit on only the text of a part is kept. -/
theorem token_of_deep (deep : maxDepth ≤ place.depth) (node : Node) :
    node.token place = node.flattened := by
  -- All three ask for the limit first.
  cases node with
  | block block => exact (blockToken.eq_def place block).trans (if_pos deep)
  | item blocks => exact if_pos deep
  | inline content => exact (inlineToken.eq_def place.depth content).trans (if_pos deep)

/-- Below what is kept of a part there is its text when that needs a paragraph around it. -/
theorem children_flattened (node : Node) :
    node.flattened.children = if node.isInline then [] else [.ofText node.flatText] := by
  cases node <;> rfl

/-- What is kept of a part is its text, by itself or as a paragraph. -/
theorem flattened_cases (node : Node) :
    node.flattened = .ofText node.flatText ∨ node.flattened = collapsed node.flatText := by
  -- Running text stays running text; all else becomes a paragraph.
  cases node with
  | block held => exact .inr rfl
  | item blocks => exact .inr rfl
  | inline content => exact .inl rfl

/--
What stands right below the token of a part is the token of a part right inside, unless it is the
text that was kept of a block or a section of a table.
-/
theorem Form.exists_of_mem_children {node : Node} {token child : Token}
    (form : node.Form place token) (member : child ∈ token.children) :
    (node.isInline = false ∧ ∃ text, child = .ofText text) ∨
      (place.depth < maxDepth ∧
        ∃ part ∈ node.inner, ∃ within, within.depth = place.depth + 1 ∧ child = part.token within) ∨
      place.depth < maxDepth ∧ node.isInline = false ∧ ∃ alignments header rows,
        token = tableToken place.depth alignments header rows := by
  cases form with
  | flattened node deep =>
    -- Running text is kept as it is, and of anything else a paragraph is made for the text.
    rw [children_flattened] at member
    split at member
    · cases member
    · rename_i noInline
      exact .inl ⟨Bool.eq_false_iff.mpr noInline, _, List.mem_singleton.mp member⟩
  -- Texts and marks have nothing inside.
  | literal isLiteral raw attrs => cases member
  | mark isMark => cases member
  | around shallow wraps deeper attrs =>
    obtain ⟨part, inside, rfl⟩ := List.mem_map.mp member
    exact .inr (.inl ⟨shallow, part, inside, _, deeper, rfl⟩)
  | table shallow alignments header rows =>
    exact .inr (.inr ⟨shallow, rfl, alignments, header, rows, rfl⟩)

/-- What is inside of running text is running text. -/
theorem isInline_of_mem_inner {node part : Node} (isInline : node.isInline = true)
    (member : part ∈ node.inner) : part.isInline = true := by
  -- Blocks and items are no running text, and a content holds contents only.
  cases node with
  | block held => cases isInline
  | item blocks => cases isInline
  | inline content =>
    obtain ⟨inside, -, rfl⟩ := List.mem_map.mp member
    rfl

end Node

/-- The tokens of a document are those of its blocks, and blank lines between them. -/
theorem exists_of_mem_tokensOfDocument {document : Document} {token : Token}
    (member : token ∈ tokensOfDocument document) :
    token = .bare .blankLine ∨ ∃ block ∈ document, token = blockToken {} block := by
  -- A token at an even position is that of a block, and between two of these is a blank line.
  obtain ⟨position, found⟩ := List.mem_iff_getElem?.mp member
  rw [tokensOfDocument, List.getElem?_intersperse, blockTokens_eq_map] at found
  split at found
  · obtain ⟨block, inside, rfl⟩ := List.mem_map.mp (List.mem_of_getElem? found)
    exact .inr ⟨block, inside, rfl⟩
  · split at found
    · exact .inl (Option.some.inj found).symm
    · cases found

end Markdown

end Manuscript
