import Manuscript.Render.Tokens

/-!
A renderer in use. Its calls share what it remembers: how many tables it has numbered, how deeply
the token that it is at is nested, and which templates it has filled. A call changes all of this
step by step while it goes through its tokens.
-/

namespace Manuscript

/-- A template that was filled: whose template it is, and the values that it was given. -/
structure Filling where
  /-- The construct. -/
  construct : Construct
  /-- The values. -/
  values : Values

/-- What a renderer in use remembers. -/
structure Session where
  /-- How many tables have their number. -/
  tables : Nat := 0
  /-- How many tokens around the present place are not written yet. -/
  depth : Nat := 0
  /-- The templates that were filled, the last one first. -/
  fillings : List Filling := []

/-- Work of a renderer in use. -/
abbrev Rendering (α : Type) := StateM Session α

/-- A construct that is to be written from what the caller gives. -/
inductive ConstructCall where
  | text (text : String)
  | emphasis (content : String)
  | strong (content : String)
  | link (content url : String) (title? : Option String)
  | image (alt url : String) (title? : Option String)
  | codespan (code : String)
  | linebreak
  | softbreak
  | inlineMath (math : String)
  | paragraph (content : String)
  | heading (content : String) (level : Nat)
  | blockText (content : String)
  | blockCode (code : String) (info? : Option String)
  | blockQuote (content : String)
  | blockMath (math : String)
  | thematicBreak
  | blankLine
  | list (items : String) (ordered : Bool)
  | orderedList (items : String)
  | unorderedList (items : String)
  | listItem (content : String)

/-- The construct that is written for a token outside of tables with its content. -/
def ConstructCall.ofToken? (kind : TokenKind) (attrs : Attrs) (content : String) :
    Option ConstructCall :=
  match kind with
  | .text => some (.text content)
  | .emphasis => some (.emphasis content)
  | .strong => some (.strong content)
  -- Without a target the target is empty.
  | .link => some (.link content ((attrs.text? "url").getD "") (attrs.text? "title"))
  | .image => some (.image content ((attrs.text? "url").getD "") (attrs.text? "title"))
  | .codespan => some (.codespan content)
  | .linebreak => some .linebreak
  | .softbreak => some .softbreak
  | .inlineMath => some (.inlineMath content)
  | .paragraph => some (.paragraph content)
  -- A heading that tells no level is of the first.
  | .heading => some (.heading content ((attrs.count? "level").getD 1))
  | .blockText => some (.blockText content)
  | .blockCode => some (.blockCode content (attrs.text? "info"))
  | .blockQuote => some (.blockQuote content)
  | .blockMath => some (.blockMath content)
  | .thematicBreak => some .thematicBreak
  | .blankLine => some .blankLine
  | .list => some (.list content (attrs.flag "ordered"))
  | .orderedList => some (.orderedList content)
  | .unorderedList => some (.unorderedList content)
  | .listItem => some (.listItem content)
  -- Tables and their parts are assembled, and unknown kinds write nothing.
  | .table | .tableHead | .tableBody | .tableRow | .tableCell | .unknown _ => none

/-- The table with one more header cell, whose attributes tell how its column is aligned. -/
def TableAssembly.addHeaderCell (table : TableAssembly) (attrs : Attrs) (cell : String) :
    TableAssembly :=
  { table with
    header := table.header ++ [cell]
    alignments := table.alignments ++ [attrs.text? "align"] }

/-- The table with one more row, given with what its cells say about their alignment. -/
def TableAssembly.addRow (table : TableAssembly) (cells : List (String × Option String)) :
    TableAssembly :=
  match cells with
  -- A row without cells is left out.
  | [] => table
  | cells =>
    { table with
      rows := table.rows ++ [cells.map (·.1)]
      -- Without a header the first row tells how the columns are aligned.
      alignments :=
        if table.header.isEmpty && table.rows.isEmpty then cells.map (·.2) else table.alignments }

namespace Session

variable (r : Renderer)

/-- What the template of a construct makes of values; the filling is remembered. -/
def fill (construct : Construct) (values : Values) : Rendering String := do
  modify fun session => { session with fillings := ⟨construct, values⟩ :: session.fillings }
  return r.fill construct values

/-- A construct whose only value is a text. -/
def fillText (construct : Construct) (text : String) : Rendering String :=
  fill r construct [(.text, text)]

/-- A single construct. -/
def write : ConstructCall → Rendering String
  | .text text => fillText r .text (r.escaped text)
  | .emphasis content => fillText r .emphasis content
  | .strong content => fillText r .strong content
  | .link content url title? =>
    fill r .link [(.url, url), (.text, content), (.title, title?.getD "")]
  | .image alt url title? => do
    let resolved := resolveImagePath r.options.imageRules url
    let figure ← fill r .image
      [(.url, resolved), (.alt, alt), (.label, figureLabel alt), (.title, title?.getD "")]
    -- The note is a comment line of its own, which the template knows nothing of.
    return Renderer.formatNote resolved ++ figure
  | .codespan code => fillText r .codespan (r.escaped code)
  | .linebreak => fill r .linebreak []
  | .softbreak => fill r .softbreak []
  | .inlineMath math => fillText r .inlineMath math
  | .paragraph content => fillText r .paragraph content
  | .heading content level =>
    fill r .heading [(.headingType, r.options.headings.command level), (.text, content)]
  | .blockText content => fillText r .blockText content
  | .blockCode code info? =>
    let code := Renderer.withoutLastNewline code
    -- Listings need a language that they know, and plain blocks have none.
    match listingLanguage? info? with
    | some lang => fill r .blockCodeWithLang [(.lang, lang), (.code, code)]
    | none => fill r .blockCode [(.code, code)]
  | .blockQuote content => fillText r .blockQuote content
  | .blockMath math => fillText r .blockMath math
  | .thematicBreak => fill r .thematicBreak []
  | .blankLine => fill r .blankLine []
  | .list items ordered => fillText r (if ordered then .orderedList else .unorderedList) items
  | .orderedList items => fillText r .orderedList items
  | .unorderedList items => fillText r .unorderedList items
  | .listItem content => fillText r .listItem content

/-- What is written for a token outside of tables, with its content. -/
def construct (kind : TokenKind) (attrs : Attrs) (content : String) : Rendering String :=
  match ConstructCall.ofToken? kind attrs content with
  | some call => write r call
  | none => return ""

/-- Work one level deeper. -/
def deeper {α : Type} (work : Rendering α) : Rendering α := do
  modify fun session => { session with depth := session.depth + 1 }
  let result ← work
  modify fun session => { session with depth := session.depth - 1 }
  return result

/-- A table: its number is taken before those of the tables inside of it. -/
def tableWith (assemble : Rendering TableAssembly) : Rendering String := do
  modify fun session => { session with tables := session.tables + 1 }
  let number := (← get).tables
  let table ← assemble
  fill r .table
    [(.counter, toString number), (.alignment, table.alignmentSpec), (.header, table.headerLine),
     (.body, table.bodyLines)]

/-- Content in bold. -/
def strongWith (content : Rendering String) : Rendering String := do
  write r (.strong (← content))

/-- A cell around its content, in bold when it is marked as a header cell. -/
def cellWith (attrs : Attrs) (content : Rendering String) : Rendering String := do
  if attrs.flag "head" then strongWith r content else content

mutual

/-- A token at the depth that is remembered. The tokens inside of it are one deeper. -/
def renderToken : Token → Rendering String
  | ⟨kind, raw?, children?, attrs⟩ => do
    -- What is nested too deeply is only text, whatever it was.
    if r.flattens (← get).depth then
      write r (.text (Token.plainText ⟨kind, raw?, children?, attrs⟩))
    else
      deeper <|
        match kind with
        | .table => tableWith r (assembleInside children?)
        -- A part of a table that stands outside of one gives what is inside of it.
        | .tableHead | .tableBody | .tableRow => renderInside children?
        | .tableCell => cellWith r attrs (renderInside children?)
        | kind =>
          match raw? with
          -- A token with a text of its own is not looked into.
          | some raw => construct r kind attrs raw
          -- The tokens inside are written, and fill their templates, before the token around them.
          | none => do construct r kind attrs (← renderInside children?)

/-- The tokens of a list that there may be. -/
def renderInside : Option (List Token) → Rendering String
  | none => return ""
  | some tokens => renderTokens tokens

/-- Tokens one after another. -/
def renderTokens : List Token → Rendering String
  | [] => return ""
  | token :: rest => do
    let first ← renderToken token
    let others ← renderTokens rest
    return first ++ others

/-- The sections of a table that there may be. -/
def assembleInside : Option (List Token) → Rendering TableAssembly
  | none => return {}
  | some sections => assembleSections {} sections

/-- The sections of a table, added to what was assembled; other tokens are left out. -/
def assembleSections (table : TableAssembly) : List Token → Rendering TableAssembly
  | [] => return table
  | ⟨.tableHead, _, some children, _⟩ :: rest => do
    assembleSections (← assembleHead table children) rest
  | ⟨.tableBody, _, some children, _⟩ :: rest => do
    assembleSections (← assembleBody table children) rest
  | _ :: rest => assembleSections table rest

/-- The header cells, which stand in the head or in rows of it. -/
def assembleHead (table : TableAssembly) : List Token → Rendering TableAssembly
  | [] => return table
  | ⟨.tableRow, _, some cells, _⟩ :: rest => do
    assembleHead (← headerCells table cells) rest
  | ⟨.tableCell, _, children?, attrs⟩ :: rest => do
    let cell ← strongWith r (renderInside children?)
    assembleHead (table.addHeaderCell attrs cell) rest
  | _ :: rest => assembleHead table rest

/-- The cells of a row of the head; each of them is strong. -/
def headerCells (table : TableAssembly) : List Token → Rendering TableAssembly
  | [] => return table
  | ⟨.tableCell, _, children?, attrs⟩ :: rest => do
    let cell ← strongWith r (renderInside children?)
    headerCells (table.addHeaderCell attrs cell) rest
  | _ :: rest => headerCells table rest

/-- The rows of a body. -/
def assembleBody (table : TableAssembly) : List Token → Rendering TableAssembly
  | [] => return table
  | ⟨.tableRow, _, some children, _⟩ :: rest => do
    assembleBody (table.addRow (← rowCells children)) rest
  | _ :: rest => assembleBody table rest

/-- The cells of a row of the body, with what they say about their alignment. -/
def rowCells : List Token → Rendering (List (String × Option String))
  | [] => return []
  | ⟨.tableCell, _, children?, attrs⟩ :: rest => do
    let cell ← cellWith r attrs (renderInside children?)
    let others ← rowCells rest
    return (cell, attrs.text? "align") :: others
  | _ :: rest => rowCells rest

end

/-- The parts of a table token, rendered. -/
def assembleTable (token : Token) : Rendering TableAssembly := assembleSections r {} token.children

/-- A whole document. -/
def document (tokens : List Token) (template : DocumentTemplate) : Rendering String := do
  return template.wrap (← renderTokens r tokens)

end Session

/-- A call of a renderer. -/
inductive Call where
  /-- A token. -/
  | token (token : Token)
  /-- Tokens one after another. -/
  | tokens (tokens : List Token)
  /-- A whole document. -/
  | document (tokens : List Token) (template : DocumentTemplate)
  /-- A table, whatever the kind of the token that holds its sections. -/
  | table (token : Token)
  /-- The parts of a table, rendered. -/
  | assemble (token : Token)
  /-- A section of a table that stands by itself. -/
  | tableSection (token : Token)
  /-- A cell of a table that stands by itself. -/
  | tableCell (token : Token)
  /-- A single construct. -/
  | construct (call : ConstructCall)

/-- What a call is answered with. -/
inductive Reply where
  /-- A text. -/
  | text (text : String)
  /-- A table whose cells are rendered. -/
  | assembly (table : TableAssembly)

/-- Answers a call. -/
def Call.perform (r : Renderer) : Call → Rendering Reply
  | .token given => return .text (← Session.renderToken r given)
  | .tokens given => return .text (← Session.renderTokens r given)
  | .document given template => return .text (← Session.document r given template)
  | .table given => return .text (← Session.tableWith r (Session.assembleTable r given))
  | .assemble given => return .assembly (← Session.assembleTable r given)
  | .tableSection given => return .text (← Session.renderTokens r given.children)
  | .tableCell given =>
    return .text (← Session.cellWith r given.attrs (Session.renderTokens r given.children))
  | .construct call => return .text (← Session.write r call)

/-- Answers calls one after another. -/
def Call.performAll (r : Renderer) (calls : List Call) : Rendering (List Reply) :=
  calls.mapM (perform r)

end Manuscript
