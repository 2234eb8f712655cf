import Manuscript.Token.Attributes

/-! Tokens: the tree that a document is rendered from. -/

namespace Manuscript

/-- The depth at which a tree is no longer kept as a tree but as its plain text. -/
def maxDepth : Nat := 256

/-- What a token is. -/
inductive TokenKind where
  | text
  | emphasis
  | strong
  | link
  | image
  | codespan
  | linebreak
  | softbreak
  | inlineMath
  | paragraph
  | heading
  | blockText
  | blockCode
  | blockQuote
  | blockMath
  | thematicBreak
  | blankLine
  | list
  | orderedList
  | unorderedList
  | listItem
  | table
  | tableHead
  | tableBody
  | tableRow
  | tableCell
  /-- A kind that nothing is written for, by its name. -/
  | unknown (name : String)
  deriving DecidableEq

namespace TokenKind

/-- The kinds that have a meaning. -/
def known : List TokenKind :=
  [.text, .emphasis, .strong, .link, .image, .codespan, .linebreak, .softbreak, .inlineMath,
   .paragraph, .heading, .blockText, .blockCode, .blockQuote, .blockMath, .thematicBreak,
   .blankLine, .list, .orderedList, .unorderedList, .listItem, .table, .tableHead, .tableBody,
   .tableRow, .tableCell]

/-- The name of a kind. -/
def name : TokenKind → String
  | .text => "text"
  | .emphasis => "emphasis"
  | .strong => "strong"
  | .link => "link"
  | .image => "image"
  | .codespan => "codespan"
  | .linebreak => "linebreak"
  | .softbreak => "softbreak"
  | .inlineMath => "inline_math"
  | .paragraph => "paragraph"
  | .heading => "heading"
  | .blockText => "block_text"
  | .blockCode => "block_code"
  | .blockQuote => "block_quote"
  | .blockMath => "block_math"
  | .thematicBreak => "thematic_break"
  | .blankLine => "blank_line"
  | .list => "list"
  | .orderedList => "ordered_list"
  | .unorderedList => "unordered_list"
  | .listItem => "list_item"
  | .table => "table"
  | .tableHead => "table_head"
  | .tableBody => "table_body"
  | .tableRow => "table_row"
  | .tableCell => "table_cell"
  | .unknown name => name

/-- The kind of a name; unordered lists have a second name. -/
def ofName (name : String) : TokenKind :=
  if name = "disordered_list" then .unorderedList
  -- A name without a meaning is kept, so that it can be told what was ignored.
  else (known.find? (·.name = name)).getD (.unknown name)

/-- A kind that nothing is written for. -/
def isUnknown : TokenKind → Bool
  | .unknown _ => true
  | _ => false

end TokenKind

/-- A part of a document: literal text or further parts, with attributes. -/
structure Token where
  /-- What the token is. -/
  kind : TokenKind
  /-- Literal text; it takes precedence over children. -/
  raw? : Option String := none
  /-- The parts of the token, in order. -/
  children? : Option (List Token) := none
  /-- The attributes. -/
  attrs : Attrs := .empty

namespace Token

instance : Inhabited Token := ⟨⟨.text, none, none, .empty⟩⟩

/-- A token of literal text. -/
def ofRaw (kind : TokenKind) (raw : String) : Token := { kind, raw? := some raw }

/-- A token around others. -/
def parent (kind : TokenKind) (children : List Token) : Token :=
  { kind, children? := some children }

/-- A token with neither text nor children. -/
def bare (kind : TokenKind) : Token := { kind }

/-- Running text. -/
def ofText (text : String) : Token := ofRaw .text text

/-- The token with an attribute set. -/
def withAttr (token : Token) (name : String) (value : Json.Value) : Token :=
  { token with attrs := token.attrs.insert name value }

/-- The children, none when the token has no list of them. -/
def children (token : Token) : List Token := token.children?.getD []

mutual

/-- The number of tokens in a tree. -/
def count : Token → Nat
  | ⟨_, _, none, _⟩ => 1
  | ⟨_, _, some children, _⟩ => countAll children + 1

/-- The number of tokens in trees. -/
def countAll : List Token → Nat
  | [] => 0
  | token :: rest => token.count + countAll rest

end

/-- A tree has its root and what its children have. -/
theorem count_eq (token : Token) : token.count = countAll token.children + 1 := by
  obtain ⟨_, _, _ | children, _⟩ := token <;> rfl

/-- The tokens of two rows of trees are counted row by row. -/
theorem countAll_append (front behind : List Token) :
    countAll (front ++ behind) = countAll front + countAll behind := by
  induction front with
  | nil => simp [countAll]
  | cons token rest ih => rw [List.cons_append, countAll, countAll, ih, Nat.add_assoc]

/-- The order of trees does not matter to the number of their tokens. -/
theorem countAll_reverse (tokens : List Token) : countAll tokens.reverse = countAll tokens := by
  induction tokens with
  | nil => rfl
  | cons token rest ih =>
    rw [List.reverse_cons, countAll_append, ih, countAll, countAll, countAll, Nat.add_zero,
      Nat.add_comm]

/-- Literal text on its way out of trees. -/
structure Gathering where
  /-- The text that was found. -/
  text : String
  /-- The trees that are still to be gone through, the next one last. -/
  pending : Array Token

namespace Gathering

/-- What is left to do for one tree. -/
def ofToken (token : Token) : Gathering := ⟨"", #[token]⟩

/--
One turn: the root of the next tree gives its own text, and its children take its place, the first
of them as the next one. Without a tree there is no turn.
-/
@[inline] def turn? (found : Gathering) : Option Gathering :=
  found.pending.back?.map fun token =>
    ⟨found.text ++ token.raw?.getD "", found.pending.pop ++ token.children.reverse.toArray⟩

/-- The number of tokens that are still to be met. -/
def left (found : Gathering) : Nat := countAll found.pending.toList

/-- Each turn meets one token. -/
theorem left_of_turn? {found next : Gathering} (turned : found.turn? = some next) :
    found.left = next.left + 1 := by
  obtain ⟨token, last, rfl⟩ := Option.map_eq_some_iff.mp turned
  obtain ⟨front, pending⟩ := Array.back?_eq_some_iff.mp last
  -- The root is the one token that goes, and its children are pending in its place.
  simp only [left, pending, Array.toList_push, Array.pop_push, Array.toList_append,
    countAll_append, countAll_reverse, countAll, count_eq token]
  omega

/-- A turn leaves fewer tokens to be met. -/
theorem left_lt_of_turn? {found next : Gathering} (turned : found.turn? = some next) :
    next.left < found.left := by
  rw [left_of_turn? turned]
  exact Nat.lt_succ_self _

/-- The text when no tree is left. -/
def finish (found : Gathering) : String :=
  match _ : found.turn? with
  | none => found.text
  | some next => next.finish
termination_by found.left
decreasing_by exact left_lt_of_turn? ‹_›

end Gathering

/--
The literal text of a tree, in document order. The trees to go through are kept in a row of their
own, so that trees may be of any depth.
-/
def plainText (token : Token) : String := (Gathering.ofToken token).finish

end Token

end Manuscript
