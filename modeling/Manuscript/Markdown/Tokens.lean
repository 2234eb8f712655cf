import Manuscript.Markdown.Document
import Manuscript.Token.Basic

/-!
Documents as tokens. Blocks are separated by blank lines at the top, a paragraph of a tight list
item is only its text, and what is nested too deeply is kept as its literal text.
-/

namespace Manuscript.Markdown

/-- A token with a title, when there is one. -/
def withTitle (token : Token) (title : String) : Token :=
  if title.isEmpty then token else token.withAttr "title" (.string title)

/-- The token of a link or an image. -/
def targetToken (kind : TokenKind) (target : Target) (content : List Token) : Token :=
  withTitle ((Token.parent kind content).withAttr "url" (.string target.url)) target.title

mutual

/-- The token of inline content at a depth. -/
def inlineToken (depth : Nat) (content : Inline) : Token :=
  -- At the depth limit only the text is kept.
  if maxDepth ≤ depth then .ofText content.flatText
  else
    match content with
    | .text text => .ofText text
    | .code literal => .ofRaw .codespan literal
    | .math true literal => .ofRaw .blockMath literal
    | .math false literal => .ofRaw .inlineMath literal
    -- HTML is of a kind that nothing is written for.
    | .html literal => .ofRaw (.unknown "inline_html") literal
    | .softBreak => .bare .softbreak
    | .lineBreak => .bare .linebreak
    | .emphasis inner => .parent .emphasis (inlineTokens (depth + 1) inner)
    | .strong inner => .parent .strong (inlineTokens (depth + 1) inner)
    | .link target inner => targetToken .link target (inlineTokens (depth + 1) inner)
    | .image target inner => targetToken .image target (inlineTokens (depth + 1) inner)

/-- The tokens of inline contents at a depth. -/
def inlineTokens (depth : Nat) : List Inline → List Token
  | [] => []
  | content :: rest => inlineToken depth content :: inlineTokens depth rest

end

/-- The name of an alignment, when one is asked for. -/
def Alignment.name? : Alignment → Option String
  | .unspecified => none
  | .left => some "left"
  | .center => some "center"
  | .right => some "right"

/-- The token of a table cell. -/
def cellToken (depth : Nat) (isHead : Bool) (alignment? : Option Alignment)
    (content : List Inline) : Token :=
  let cell := (Token.parent .tableCell (inlineTokens depth content)).withAttr "head" (.bool isHead)
  match alignment?.bind Alignment.name? with
  | some name => cell.withAttr "align" (.string name)
  | none => cell

/-- The tokens of the cells of a row, with the alignments of the columns from the first one on. -/
def cellTokens (depth : Nat) (isHead : Bool) : List Alignment → List (List Inline) → List Token
  | _, [] => []
  | alignments, cell :: rest =>
    cellToken depth isHead alignments.head? cell :: cellTokens depth isHead alignments.tail rest

/-- The token of a table at a depth; its cells are four steps further inside. -/
def tableToken (depth : Nat) (alignments : List Alignment) (header : List (List Inline))
    (rows : List (List (List Inline))) : Token :=
  -- The table, its section, the row and the cell are one step each.
  let inside := depth + 4
  .parent .table
    [.parent .tableHead (cellTokens inside true alignments header),
     .parent .tableBody
      (rows.map fun row => .parent .tableRow (cellTokens inside false alignments row))]

/-- Where a block stands. -/
structure Place where
  /-- It is in an item of a tight list, with no quote between. -/
  tight : Bool := false
  /-- How many lists it is in. -/
  lists : Nat := 0
  /-- How deeply its token is nested. -/
  depth : Nat := 0

namespace Place

/-- The place one step further inside. -/
def inner (place : Place) : Place := { place with depth := place.depth + 1 }

/-- The place of the items of a list. -/
def inList (place : Place) (tight : Bool) : Place :=
  ⟨tight, place.lists + 1, place.depth + 1⟩

/-- The place of the blocks of a quote. -/
def inQuote (place : Place) : Place := { place.inner with tight := false }

end Place

/-- The token that stands for what is nested too deeply. -/
def collapsed (text : String) : Token := .parent .paragraph [.ofText text]

/-- The token of a paragraph. Displayed math on its own is a block. -/
def paragraphToken (place : Place) (content : List Inline) : Token :=
  match content with
  -- Nothing but displayed math: no paragraph is needed around it.
  | [.math true literal] => .ofRaw .blockMath literal
  | _ =>
    .parent (if place.tight then .blockText else .paragraph)
      (inlineTokens (place.depth + 1) content)

/-- The token of a code block. -/
def codeToken (info literal : String) : Token :=
  -- An info string of blanks says nothing.
  let language := Unicode.trim info
  let token := Token.ofRaw .blockCode literal
  if language.isEmpty then token else token.withAttr "info" (.string language)

mutual

/-- The token of a block at a place. -/
def blockToken (place : Place) (block : Block (List Inline)) : Token :=
  -- At the depth limit only the text is kept, as a paragraph of its own.
  if maxDepth ≤ place.depth then collapsed (flatBlock block)
  else
    match block with
    | .heading level content =>
      (Token.parent .heading (inlineTokens (place.depth + 1) content)).withAttr "level"
        (.number (.natural level))
    | .paragraph content => paragraphToken place content
    | .code info literal => codeToken info literal
    | .html literal => .ofRaw (.unknown "block_html") literal
    | .thematicBreak => .bare .thematicBreak
    | .quote content => .parent .blockQuote (blockTokens place.inQuote content)
    | .list ordered tight items =>
      ((Token.parent .list (itemTokens (place.inList tight) items)).withAttr "ordered"
        (.bool ordered)).withAttr "depth" (.number (.natural place.lists))
    | .table alignments header rows => tableToken place.depth alignments header rows

/-- The tokens of blocks at a place. -/
def blockTokens (place : Place) : List (Block (List Inline)) → List Token
  | [] => []
  | block :: rest => blockToken place block :: blockTokens place rest

/-- The tokens of list items at a place. -/
def itemTokens (place : Place) : List (List (Block (List Inline))) → List Token
  | [] => []
  | item :: rest =>
    -- Items are one level of their own and may be the ones at the limit.
    (if maxDepth ≤ place.depth then collapsed (flatBlocks item)
      else .parent .listItem (blockTokens place.inner item)) :: itemTokens place rest

end

/-- The tokens of a document, with a blank line between two blocks. -/
def tokensOfDocument (document : Document) : List Token :=
  (blockTokens {} document).intersperse (.bare .blankLine)

end Manuscript.Markdown
