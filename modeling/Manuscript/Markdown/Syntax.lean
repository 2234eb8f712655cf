/-! The structure of a markdown document: blocks around leaves, and the inline content of leaves. -/

namespace Manuscript.Markdown

/-- Where a link or an image leads, and its title. -/
structure Target where
  /-- The address. -/
  url : String
  /-- The title, empty when there is none. -/
  title : String
  deriving DecidableEq

/-- How many bytes a target has. -/
def Target.size (target : Target) : Nat := target.url.utf8ByteSize + target.title.utf8ByteSize

/-- A part of running text. -/
inductive Inline where
  | text (content : String)
  | code (literal : String)
  | math (display : Bool) (literal : String)
  | html (literal : String)
  | softBreak
  | lineBreak
  | emphasis (content : List Inline)
  | strong (content : List Inline)
  | link (target : Target) (content : List Inline)
  | image (target : Target) (content : List Inline)

/-- How a column of a table is aligned. -/
inductive Alignment where
  | unspecified
  | left
  | center
  | right
  deriving DecidableEq

/-- A block of a document whose leaves hold content of some kind. -/
inductive Block (α : Type) where
  | heading (level : Nat) (content : α)
  | paragraph (content : α)
  | code (info literal : String)
  | html (literal : String)
  | thematicBreak
  | quote (content : List (Block α))
  | list (ordered tight : Bool) (items : List (List (Block α)))
  | table (alignments : List Alignment) (header : List α) (rows : List (List α))

mutual

/-- The block with the content of its leaves replaced, from the first leaf to the last. -/
def Block.mapM {m : Type → Type} [Monad m] {α β : Type} (f : α → m β) : Block α → m (Block β)
  | .heading level content => return .heading level (← f content)
  | .paragraph content => return .paragraph (← f content)
  | .code info literal => return .code info literal
  | .html literal => return .html literal
  | .thematicBreak => return .thematicBreak
  | .quote content => return .quote (← mapBlocksM f content)
  | .list ordered tight items => return .list ordered tight (← mapItemsM f items)
  | .table alignments header rows => do
    let header ← header.mapM f
    return .table alignments header (← rows.mapM (·.mapM f))

/-- Blocks with the content of their leaves replaced, in order. -/
def mapBlocksM {m : Type → Type} [Monad m] {α β : Type} (f : α → m β) :
    List (Block α) → m (List (Block β))
  | [] => return []
  | block :: rest => do
    let block ← block.mapM f
    return block :: (← mapBlocksM f rest)

/-- List items with the content of their leaves replaced, in order. -/
def mapItemsM {m : Type → Type} [Monad m] {α β : Type} (f : α → m β) :
    List (List (Block α)) → m (List (List (Block β)))
  | [] => return []
  | item :: rest => do
    let item ← mapBlocksM f item
    return item :: (← mapItemsM f rest)

end

/-- A document. -/
abbrev Document := List (Block (List Inline))

end Manuscript.Markdown
