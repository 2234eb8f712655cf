import Manuscript.Markdown.Tokens

/-!
The literal text of token trees. In the trees that markdown is read as it is that of the document,
both in what is kept as a tree and in what is nested too deeply for that.
-/

namespace Manuscript

/-- The literal text of a token by itself: an unknown one has none, and a line end is a space. -/
def TokenKind.literalText (kind : TokenKind) (raw? : Option String) : String :=
  match kind with
  | .unknown _ => ""
  | .softbreak | .linebreak => raw?.getD "" ++ " "
  | _ => raw?.getD ""

namespace Token

mutual

/-- The literal text of a tree, in document order. -/
def literalText : Token → String
  | ⟨kind, raw?, none, _⟩ => kind.literalText raw?
  | ⟨kind, raw?, some children, _⟩ => kind.literalText raw? ++ literalTextAll children

/-- The literal text of trees one after another. -/
def literalTextAll : List Token → String
  | [] => ""
  | token :: rest => token.literalText ++ literalTextAll rest

end

/-- A token of literal text has what its kind makes of that. -/
theorem literalText_ofRaw (kind : TokenKind) (raw : String) :
    (ofRaw kind raw).literalText = kind.literalText (some raw) := by
  rw [ofRaw, literalText]

/-- A token with neither text nor children has what its kind stands for. -/
theorem literalText_bare (kind : TokenKind) : (bare kind).literalText = kind.literalText none := by
  rw [bare, literalText]

/-- A token around others has their text, when its kind stands for none. -/
theorem literalText_parent {kind : TokenKind} (silent : kind.literalText none = "")
    (children : List Token) : (parent kind children).literalText = literalTextAll children := by
  rw [parent, literalText, silent, String.empty_append]

/-- Running text is literal text. -/
theorem literalText_ofText (text : String) : (ofText text).literalText = text :=
  literalText_ofRaw ..

/-- Attributes are no text. -/
@[simp] theorem literalText_withAttr (token : Token) (name : String) (value : Json.Value) :
    (token.withAttr name value).literalText = token.literalText := by
  obtain ⟨kind, raw?, children?, attrs⟩ := token
  cases children? <;> simp only [withAttr, literalText]

/-- A tree by itself has its own text. -/
theorem literalTextAll_singleton (token : Token) : literalTextAll [token] = token.literalText := by
  simp only [literalTextAll, String.append_empty]

/-- Tokens without text that stand between others add none. -/
theorem literalTextAll_intersperse {separator : Token} (silent : separator.literalText = "")
    (tokens : List Token) :
    literalTextAll (tokens.intersperse separator) = literalTextAll tokens := by
  -- A separator stands behind every token but the last.
  induction tokens with
  | nil => rfl
  | cons token rest ih =>
    cases rest with
    | nil => rfl
    | cons next rest =>
      rw [List.intersperse_cons_cons, literalTextAll, literalTextAll, silent, String.empty_append,
        ih]
      rfl

end Token

namespace Markdown

open Manuscript.Token

/-- A title is no text. -/
@[simp] theorem literalText_withTitle (token : Token) (title : String) :
    (withTitle token title).literalText = token.literalText := by
  unfold withTitle
  -- A title is an attribute, which is no text.
  split
  · rfl
  · exact literalText_withAttr ..

/-- A link or an image has the text of its content. -/
theorem literalText_targetToken {kind : TokenKind} (silent : kind.literalText none = "")
    (target : Target) (content : List Token) :
    (targetToken kind target content).literalText = literalTextAll content := by
  rw [targetToken, literalText_withTitle, literalText_withAttr, literalText_parent silent]

-- The induction goes through a content and its parts together, one step deeper in the parts.
mutual

/-- The token of inline content has the text of the content, at every depth. -/
theorem literalText_inlineToken (depth : Nat) (content : Inline) :
    (inlineToken depth content).literalText = content.flatText := by
  unfold inlineToken
  split
  -- At the depth limit the text is all that is kept.
  · exact literalText_ofText _
  cases content with
  | text text => exact literalText_ofText text
  | code literal => exact literalText_ofRaw ..
  | math display literal => cases display <;> exact literalText_ofRaw ..
  | html literal => exact literalText_ofRaw ..
  | softBreak | lineBreak => exact literalText_bare _
  | emphasis inner | strong inner =>
    exact (literalText_parent rfl _).trans (literalTextAll_inlineTokens (depth + 1) inner)
  | link target inner | image target inner =>
    exact (literalText_targetToken rfl ..).trans (literalTextAll_inlineTokens (depth + 1) inner)

/-- The tokens of inline contents have the text of the contents. -/
theorem literalTextAll_inlineTokens (depth : Nat) (contents : List Inline) :
    literalTextAll (inlineTokens depth contents) = flatTexts contents := by
  cases contents with
  | nil => rfl
  | cons content rest =>
    -- Content by content, in the order of the text.
    rw [inlineTokens, literalTextAll, flatTexts, literalText_inlineToken depth content,
      literalTextAll_inlineTokens depth rest]

end

/-- The token of a cell has the text of the cell, whatever is said of its column. -/
theorem literalText_cellToken (depth : Nat) (isHead : Bool) (alignment? : Option Alignment)
    (content : List Inline) :
    (cellToken depth isHead alignment? content).literalText = flatTexts content := by
  -- The text is in the content; an attribute adds nothing to it.
  have cell : (Token.parent .tableCell (inlineTokens depth content)).literalText =
      flatTexts content :=
    (literalText_parent rfl _).trans (literalTextAll_inlineTokens depth content)
  unfold cellToken
  dsimp only
  split
  · rw [literalText_withAttr, literalText_withAttr, cell]
  · rw [literalText_withAttr, cell]

/-- The tokens of the cells of a row have the text of the row. -/
theorem literalTextAll_cellTokens (depth : Nat) (isHead : Bool) (alignments : List Alignment)
    (cells : List (List Inline)) :
    literalTextAll (cellTokens depth isHead alignments cells) = flatCells cells := by
  -- Each cell takes an alignment from the front, which is no text.
  induction cells generalizing alignments with
  | nil => rfl
  | cons cell rest ih =>
    rw [cellTokens, literalTextAll, flatCells, literalText_cellToken, ih]

/-- The tokens of the rows of a table have the text of the rows. -/
theorem literalTextAll_rows (depth : Nat) (alignments : List Alignment)
    (rows : List (List (List Inline))) :
    literalTextAll (rows.map fun row =>
      Token.parent .tableRow (cellTokens depth false alignments row)) = flatRows rows := by
  induction rows with
  | nil => rfl
  | cons row rest ih =>
    -- A row is what its cells are, and adds nothing to them.
    rw [List.map_cons, literalTextAll, flatRows, literalText_parent rfl, literalTextAll_cellTokens,
      ih]

/-- The token of a table has the text of its header and then that of its rows. -/
theorem literalText_tableToken (depth : Nat) (alignments : List Alignment)
    (header : List (List Inline)) (rows : List (List (List Inline))) :
    (tableToken depth alignments header rows).literalText = flatCells header ++ flatRows rows := by
  rw [tableToken, literalText_parent rfl, literalTextAll, literalTextAll_singleton,
    literalText_parent rfl, literalText_parent rfl, literalTextAll_cellTokens, literalTextAll_rows]

/-- A text that stands for what is nested too deeply is the text of its token. -/
theorem literalText_collapsed (text : String) : (collapsed text).literalText = text := by
  rw [collapsed, literalText_parent rfl, literalTextAll_singleton, literalText_ofText]

/-- The token of a paragraph has the text of the paragraph, displayed math on its own included. -/
theorem literalText_paragraphToken (place : Place) (content : List Inline) :
    (paragraphToken place content).literalText = flatTexts content := by
  unfold paragraphToken
  split
  -- Displayed math that stands alone is a block of its own, with the literal as its text.
  case h_1 literal =>
    rw [literalText_ofRaw, flatTexts, flatTexts, Inline.flatText, String.append_empty]
    rfl
  case h_2 =>
    have silent :
        (if place.tight then TokenKind.blockText else .paragraph).literalText none = "" := by
      split <;> rfl
    rw [literalText_parent silent, literalTextAll_inlineTokens]

/-- The token of a code block has its code, whatever the language is. -/
theorem literalText_codeToken (info literal : String) :
    (codeToken info literal).literalText = literal := by
  have token : (Token.ofRaw .blockCode literal).literalText = literal := literalText_ofRaw ..
  unfold codeToken
  dsimp only
  split
  · exact token
  · rw [literalText_withAttr, token]

-- The induction goes through a block, the blocks in it and the items of a list together; the place
-- of the inner ones does not matter.
mutual

/-- The token of a block has the text of the block, at every place. -/
theorem literalText_blockToken (place : Place) (block : Block (List Inline)) :
    (blockToken place block).literalText = flatBlock block := by
  unfold blockToken
  -- At the depth limit all that is kept of a block is its text.
  split
  · exact literalText_collapsed _
  cases block with
  | heading level content =>
    exact (literalText_withAttr ..).trans
      ((literalText_parent rfl _).trans (literalTextAll_inlineTokens _ content))
  | paragraph content => exact literalText_paragraphToken place content
  | code info literal => exact literalText_codeToken info literal
  | html literal => exact literalText_ofRaw ..
  | thematicBreak => exact literalText_bare _
  | quote content =>
    exact (literalText_parent rfl _).trans (literalTextAll_blockTokens place.inQuote content)
  -- How a list is laid out is told by attributes, which are no text.
  | list ordered tight items =>
    rw [literalText_withAttr, literalText_withAttr, literalText_parent rfl, flatBlock,
      literalTextAll_itemTokens (place.inList tight) items]
  | table alignments header rows => exact literalText_tableToken place.depth alignments header rows

/-- The tokens of blocks have the text of the blocks. -/
theorem literalTextAll_blockTokens (place : Place) (blocks : List (Block (List Inline))) :
    literalTextAll (blockTokens place blocks) = flatBlocks blocks := by
  cases blocks with
  | nil => rfl
  | cons block rest =>
    -- Block by block, in the order of the text.
    rw [blockTokens, literalTextAll, flatBlocks, literalText_blockToken place block,
      literalTextAll_blockTokens place rest]

/-- The tokens of list items have the text of the items, both of those at the depth limit. -/
theorem literalTextAll_itemTokens (place : Place) (items : List (List (Block (List Inline)))) :
    literalTextAll (itemTokens place items) = flatItems items := by
  cases items with
  | nil => rfl
  | cons item rest =>
    rw [itemTokens, literalTextAll, flatItems, literalTextAll_itemTokens place rest]
    congr 1
    -- An item at the depth limit is kept as its text, and any other as its blocks.
    split
    · exact literalText_collapsed _
    · exact (literalText_parent rfl _).trans (literalTextAll_blockTokens place.inner item)

end

/--
The literal text of the tokens of a document is that of the document: no text, code or math and no
line end in it is lost, doubled or moved, at whatever depth it stands.
-/
theorem literalTextAll_tokensOfDocument (document : Document) :
    literalTextAll (tokensOfDocument document) = flatBlocks document := by
  rw [tokensOfDocument, literalTextAll_intersperse (literalText_bare _), literalTextAll_blockTokens]

end Markdown

end Manuscript
