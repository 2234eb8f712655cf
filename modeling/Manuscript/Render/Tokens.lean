import Manuscript.Render.Constructs
import Manuscript.Template.Document

/-!
Rendering token trees. Tables are numbered as they are met, and a tree that is nested too deeply is
written as its plain text.
-/

namespace Manuscript

namespace Renderer

variable (r : Renderer)

/-- What is written for a token outside of tables, with its content. -/
def construct (kind : TokenKind) (attrs : Attrs) (content : String) : String :=
  match kind with
  | .text => r.text content
  | .emphasis => r.emphasis content
  | .strong => r.strong content
  | .link => r.link content ((attrs.text? "url").getD "") (attrs.text? "title")
  | .image => r.image content ((attrs.text? "url").getD "") (attrs.text? "title")
  | .codespan => r.codespan content
  | .linebreak => r.linebreak
  | .softbreak => r.softbreak
  | .inlineMath => r.inlineMath content
  | .paragraph => r.paragraph content
  -- A heading that tells no level is of the first.
  | .heading => r.heading content ((attrs.count? "level").getD 1)
  | .blockText => r.blockText content
  | .blockCode => r.blockCode content (attrs.text? "info")
  | .blockQuote => r.blockQuote content
  | .blockMath => r.blockMath content
  | .thematicBreak => r.thematicBreak
  | .blankLine => r.blankLine
  | .list => r.list content (attrs.flag "ordered")
  | .orderedList => r.orderedList content
  | .unorderedList => r.unorderedList content
  | .listItem => r.listItem content
  -- Tables and their parts are assembled, and unknown kinds write nothing.
  | .table | .tableHead | .tableBody | .tableRow | .tableCell => ""
  | .unknown _ => ""

/-- A cell with its content, in bold when it is marked as a header cell. -/
def cellText (attrs : Attrs) (content : String) : String :=
  if attrs.flag "head" then r.strong content else content

/-- Trees at a depth are too deep to be kept as trees. -/
def flattens (depth : Nat) : Bool := r.depthLimit?.any (· ≤ depth)

mutual

/--
A token at a depth, after a number of tables: the text, and the number of tables after it. The
tokens inside are one deeper.
-/
def renderToken (depth tables : Nat) : Token → String × Nat
  | ⟨kind, raw?, children?, attrs⟩ =>
    -- What is nested too deeply is only text, whatever it was.
    if r.flattens depth then (r.text (Token.plainText ⟨kind, raw?, children?, attrs⟩), tables)
    else
      match kind, raw?, children? with
      | .table, _, none => (r.tableBlock (tables + 1) {}, tables + 1)
      | .table, _, some sections =>
        -- The number is taken before the tables inside of this one take theirs.
        let (table, after) := assembleSections (depth + 1) (tables + 1) {} sections
        (r.tableBlock (tables + 1) table, after)
      -- A part of a table that stands outside of one gives what is inside of it.
      | .tableHead, _, none | .tableBody, _, none | .tableRow, _, none => ("", tables)
      | .tableHead, _, some children | .tableBody, _, some children
      | .tableRow, _, some children => renderTokens (depth + 1) tables children
      | .tableCell, _, none => (r.cellText attrs "", tables)
      | .tableCell, _, some children =>
        -- Cells outside of a row are written like cells in one.
        let (content, after) := renderTokens (depth + 1) tables children
        (r.cellText attrs content, after)
      -- A token with a text of its own is not looked into.
      | kind, some raw, _ => (r.construct kind attrs raw, tables)
      | kind, none, some children =>
        let (content, after) := renderTokens (depth + 1) tables children
        (r.construct kind attrs content, after)
      | kind, none, none => (r.construct kind attrs "", tables)

/-- Tokens one after another. -/
def renderTokens (depth tables : Nat) : List Token → String × Nat
  | [] => ("", tables)
  | token :: rest =>
    -- The count of tables goes through all tokens, in order.
    let (first, between) := renderToken depth tables token
    let (others, after) := renderTokens depth between rest
    (first ++ others, after)

/-- The sections of a table, added to what was assembled; other tokens are left out. -/
def assembleSections (depth tables : Nat) (table : TableAssembly) :
    List Token → TableAssembly × Nat
  | [] => (table, tables)
  | ⟨.tableHead, _, some children, _⟩ :: rest =>
    let (table, between) := assembleHead depth tables table children
    assembleSections depth between table rest
  | ⟨.tableBody, _, some children, _⟩ :: rest =>
    let (table, between) := assembleBody depth tables table children
    assembleSections depth between table rest
  | _ :: rest => assembleSections depth tables table rest

/-- The header cells, which stand in the head or in rows of it. -/
def assembleHead (depth tables : Nat) (table : TableAssembly) :
    List Token → TableAssembly × Nat
  | [] => (table, tables)
  | ⟨.tableRow, _, some cells, _⟩ :: rest =>
    let (table, between) := headerCells depth tables table cells
    assembleHead depth between table rest
  | ⟨.tableCell, _, children?, attrs⟩ :: rest =>
    let (cell, between) := headerCell depth tables children?
    assembleHead depth between
      { table with
        header := table.header ++ [cell]
        alignments := table.alignments ++ [attrs.text? "align"] }
      rest
  | _ :: rest => assembleHead depth tables table rest

/-- The cells of a row of the head. -/
def headerCells (depth tables : Nat) (table : TableAssembly) :
    List Token → TableAssembly × Nat
  | [] => (table, tables)
  | ⟨.tableCell, _, children?, attrs⟩ :: rest =>
    let (cell, between) := headerCell depth tables children?
    headerCells depth between
      { table with
        header := table.header ++ [cell]
        alignments := table.alignments ++ [attrs.text? "align"] }
      rest
  | _ :: rest => headerCells depth tables table rest

/-- A header cell by what is in it; it is always strong. -/
def headerCell (depth tables : Nat) : Option (List Token) → String × Nat
  | none => (r.strong "", tables)
  | some children =>
    let (content, after) := renderTokens depth tables children
    (r.strong content, after)

/-- The rows of a body; rows without cells are left out. -/
def assembleBody (depth tables : Nat) (table : TableAssembly) :
    List Token → TableAssembly × Nat
  | [] => (table, tables)
  | ⟨.tableRow, _, some children, _⟩ :: rest =>
    let (cells, between) := rowCells depth tables children
    match cells with
    -- A row without cells leaves no line, and nothing of what it holds is rendered.
    | [] => assembleBody depth between table rest
    | cells =>
      -- Without a header the first row tells how the columns are aligned.
      let alignments :=
        if table.header.isEmpty && table.rows.isEmpty then cells.map (·.2) else table.alignments
      assembleBody depth between
        { table with rows := table.rows ++ [cells.map (·.1)], alignments } rest
  | _ :: rest => assembleBody depth tables table rest

/-- The cells of a row of the body, with what they say about their alignment. -/
def rowCells (depth tables : Nat) : List Token → List (String × Option String) × Nat
  | [] => ([], tables)
  | ⟨.tableCell, _, none, attrs⟩ :: rest =>
    let (others, after) := rowCells depth tables rest
    ((r.cellText attrs "", attrs.text? "align") :: others, after)
  | ⟨.tableCell, _, some children, attrs⟩ :: rest =>
    let (content, between) := renderTokens depth tables children
    let (others, after) := rowCells depth between rest
    ((r.cellText attrs content, attrs.text? "align") :: others, after)
  | _ :: rest => rowCells depth tables rest

end

/-- The parts of a table token, rendered. -/
def assembleTable (tables : Nat) (token : Token) : TableAssembly × Nat :=
  assembleSections r 0 tables {} token.children

/-- A table, whatever the kind of the token that holds its sections. -/
def table (tables : Nat) (token : Token) : String × Nat :=
  let (assembly, after) := r.assembleTable (tables + 1) token
  (r.tableBlock (tables + 1) assembly, after)

/-- A section of a table that stands by itself. -/
def tableSection (tables : Nat) (token : Token) : String × Nat :=
  r.renderTokens 0 tables token.children

/-- A cell of a table that stands by itself. -/
def tableCell (tables : Nat) (token : Token) : String × Nat :=
  let (content, after) := r.renderTokens 0 tables token.children
  (r.cellText token.attrs content, after)

/-- A whole document. -/
def document (tables : Nat) (tokens : List Token) (template : DocumentTemplate) : String × Nat :=
  let (body, after) := r.renderTokens 0 tables tokens
  (template.wrap body, after)

end Renderer

end Manuscript
