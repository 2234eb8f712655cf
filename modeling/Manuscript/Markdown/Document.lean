import Manuscript.Markdown.Blocks
import Manuscript.Markdown.Inlines

/-! Markdown documents: reading them, and the literal text in them. -/

namespace Manuscript.Markdown

/-- The document that a source describes. -/
def documentOfSource (source : String) : Document :=
  let (blocks, defined) := blocksOfSource source.toList
  (mapBlocksM (inlinesOfText defined) blocks (roomOfSource source)).1

mutual

/-- The literal text of inline content. A line end in it counts as a space. -/
def Inline.flatText : Inline → String
  | .text content => content
  | .code literal => literal
  | .math _ literal => literal
  | .html _ => ""
  | .softBreak => " "
  | .lineBreak => " "
  | .emphasis content => flatTexts content
  | .strong content => flatTexts content
  | .link _ content => flatTexts content
  | .image _ content => flatTexts content

/-- The literal texts of inline contents one after another. -/
def flatTexts : List Inline → String
  | [] => ""
  | content :: rest => content.flatText ++ flatTexts rest

end

/-- The literal text of the cells of a row. -/
def flatCells : List (List Inline) → String
  | [] => ""
  | cell :: rest => flatTexts cell ++ flatCells rest

/-- The literal text of the rows of a table. -/
def flatRows : List (List (List Inline)) → String
  | [] => ""
  | row :: rest => flatCells row ++ flatRows rest

mutual

/-- The literal text of a block. -/
def flatBlock : Block (List Inline) → String
  | .heading _ content => flatTexts content
  | .paragraph content => flatTexts content
  | .code _ literal => literal
  | .html _ => ""
  | .thematicBreak => ""
  | .quote content => flatBlocks content
  | .list _ _ items => flatItems items
  | .table _ header rows => flatCells header ++ flatRows rows

/-- The literal text of blocks one after another. -/
def flatBlocks : List (Block (List Inline)) → String
  | [] => ""
  | block :: rest => flatBlock block ++ flatBlocks rest

/-- The literal text of list items one after another. -/
def flatItems : List (List (Block (List Inline))) → String
  | [] => ""
  | item :: rest => flatBlocks item ++ flatItems rest

end

end Manuscript.Markdown
