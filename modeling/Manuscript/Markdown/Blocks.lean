import Manuscript.Markdown.Cursor
import Manuscript.Markdown.Html
import Manuscript.Markdown.Reference
import Manuscript.Markdown.TableRow

/-!
The blocks of a document, found line by line. What is open is a path of frames from the document to
the innermost block; a line continues some of them, may open others, and adds its text to the last.
-/

namespace Manuscript.Markdown

/-- What the items of a list have in common. -/
structure ListMarker where
  /-- The bullet, none for a numbered list. -/
  bullet? : Option Char
  /-- The character behind the number. -/
  delimiter : Char
  deriving DecidableEq

/-- What a frame is open for. -/
inductive FrameKind where
  | document
  | quote
  | list (marker : ListMarker)
  /-- An item whose content is indented by a number of columns. -/
  | item (indent : Nat)
  | heading (level : Nat)
  /-- A paragraph, and whether it was found not to be the header of a table. -/
  | paragraph (noTable : Bool)
  | fencedCode (fence : Char) (length offset : Nat)
  | indentedCode
  | html (kind : HtmlBlockKind)
  | thematicBreak
  /-- A table, and how many cells its rows left out. -/
  | table (alignments : List Alignment) (header : List (List Char))
    (rows : List (List (List Char))) (missing : Nat)

/-- A part of a block that is closed: a block, or an item of a list. -/
inductive Part where
  | block (block : Block (List Char))
  | item (content : List (Block (List Char)))

/-- A closed part, and what is remembered about the blank lines in and behind it. -/
structure Child where
  /-- The part itself. -/
  part : Part
  /-- A blank line follows it. -/
  blankBehind : Bool
  /-- Its last part ends with a blank line, if it is a list or an item. -/
  blankAtEnd : Bool := false
  /-- A part other than its last ends with a blank line, if it is an item. -/
  blankInside : Bool := false

/-- A part ends with a blank line. -/
def Child.endsBlank (child : Child) : Bool := child.blankBehind || child.blankAtEnd

/-- An open block. -/
structure Frame where
  /-- What is open. -/
  kind : FrameKind
  /-- The closed parts, the last one first. -/
  children : List Child := []
  /-- The lines of text so far, the last one first; line ends are a part of them. -/
  lines : List (List Char) := []
  /-- The last line that it saw was blank. -/
  blankBehind : Bool := false
  /-- The number of the line on which it was opened. -/
  line : Nat

/-- The text of an open block so far. -/
def Frame.text (frame : Frame) : List Char := frame.lines.reverse.flatten

/-- The block with one more line of text. -/
def Frame.addLine (frame : Frame) (line : List Char) : Frame :=
  { frame with lines := line :: frame.lines }

/-- A list is loose when a blank line separates two items or two parts of an item. -/
def isTight : List Child → Bool
  | [] => true
  -- A blank line behind the last item separates nothing.
  | [last] => !last.blankInside
  | item :: rest => !(item.blankBehind || item.blankAtEnd || item.blankInside) && isTight rest

/-- Indented code without the blank lines at its end; spaces at the end of its last line stay. -/
def withoutBlankLines (text : List Char) : List Char :=
  let backwards := text.reverse
  -- Blank lines are cut off from behind, and so is the end of the last line that is not blank.
  let kept := backwards.dropWhile fun c => isBlank c || c = '\n' || c = '\r'
  if kept.isEmpty then []
  else
    -- The spaces that were cut off with them go back on.
    let dropped := (backwards.take (backwards.length - kept.length)).reverse
    kept.reverse ++ dropped.takeWhile fun c => c ≠ '\n' && c ≠ '\r'

/-- The info string and the code of a fenced block, whose first line is the info string. -/
def splitInfo (text : List Char) : String × String :=
  let info := text.takeWhile fun c => c ≠ '\n' && c ≠ '\r'
  let code := (afterLineEnd? (text.drop info.length)).getD []
  (String.ofList (unescapeBackslashes (trim (unescapeReferences info))), String.ofList code)

/-- The blocks among closed parts, the first one first. -/
def blocksOf (children : List Child) : List (Block (List Char)) :=
  children.reverse.filterMap fun child =>
    match child.part with
    | .block block => some block
    | .item _ => none

/-- The items among closed parts, the first one first. -/
def itemsOf (children : List Child) : List (List (Block (List Char))) :=
  children.reverse.filterMap fun child =>
    match child.part with
    | .block _ => none
    | .item content => some content

/-- The closed parts that a frame leaves, and the definitions that were found in it. -/
def Frame.close (frame : Frame) : List Child × List Definition :=
  let block (block : Block (List Char)) : List Child × List Definition :=
    ([{ part := .block block, blankBehind := frame.blankBehind }], [])
  match frame.kind with
  | .document => ([], [])
  | .quote => block (.quote (blocksOf frame.children))
  | .list marker =>
    ([{ part := .block (.list marker.bullet?.isNone (isTight frame.children.reverse)
          (itemsOf frame.children))
        blankBehind := frame.blankBehind
        blankAtEnd := frame.children.head?.any Child.endsBlank }], [])
  | .item _ =>
    ([{ part := .item (blocksOf frame.children)
        blankBehind := frame.blankBehind
        blankAtEnd := frame.children.head?.any Child.endsBlank
        -- The last part is the first of the list here, and may end with a blank line.
        blankInside := frame.children.tail.any Child.endsBlank }], [])
  | .heading level => block (.heading level frame.text)
  | .paragraph _ =>
    -- Definitions at the front of a paragraph are no part of it, and may be all of it.
    let (found, rest) := splitDefinitions frame.text
    if startsBlank rest then ([], found)
    else ([{ part := .block (.paragraph rest), blankBehind := frame.blankBehind }], found)
  | .fencedCode .. =>
    let (info, code) := splitInfo frame.text
    block (.code info code)
  | .indentedCode => block (.code "" (String.ofList (withoutBlankLines frame.text ++ ['\n'])))
  | .html _ => block (.html (String.ofList frame.text))
  | .thematicBreak => block .thematicBreak
  | .table alignments header rows _ => block (.table alignments header rows)

/-- A frame can hold a block. -/
def FrameKind.holdsBlocks : FrameKind → Bool
  | .document | .quote | .item _ => true
  | _ => false

/-- A frame can hold a frame of a kind. -/
def FrameKind.holds (outer inner : FrameKind) : Bool :=
  match outer, inner with
  | .list _, .item _ => true
  | _, .item _ => false
  | outer, _ => outer.holdsBlocks

/-- What is open after some lines, and what was defined in them. -/
structure Progress where
  /-- The open frames, the innermost first; the document is the last of them. -/
  path : List Frame
  /-- The definitions, the last one first. -/
  defined : List Definition := []
  /-- How many lines were read. -/
  line : Nat := 0

/-- The innermost frame closed into the one around it. -/
def Progress.closeTip (progress : Progress) : Progress :=
  match progress.path with
  | tip :: outer :: rest =>
    let (closed, found) := tip.close
    { progress with
      path := { outer with children := closed ++ outer.children } :: rest
      defined := found.reverse ++ progress.defined }
  | _ => progress

/-- Frames closed until as many are left as are given. -/
def Progress.closeDownTo (progress : Progress) (count : Nat) : Nat → Progress
  | 0 => progress
  | steps + 1 =>
    if count < progress.path.length then progress.closeTip.closeDownTo count steps else progress

/-- The frames inside of the outermost ones are closed. -/
def Progress.closeTo (progress : Progress) (count : Nat) : Progress :=
  progress.closeDownTo count progress.path.length

/-- Frames closed until one is left that can hold a kind. -/
def Progress.makeRoom (progress : Progress) (kind : FrameKind) : Nat → Progress
  | 0 => progress
  | steps + 1 =>
    match progress.path with
    | tip :: _ => if tip.kind.holds kind then progress else progress.closeTip.makeRoom kind steps
    | [] => progress

/-- A frame opened inside of the innermost one that can hold it. -/
def Progress.push (progress : Progress) (kind : FrameKind) : Progress :=
  let roomy := progress.makeRoom kind progress.path.length
  { roomy with path := { kind, line := roomy.line } :: roomy.path }

/-- The innermost frame changed. -/
def Progress.updateTip (progress : Progress) (change : Frame → Frame) : Progress :=
  match progress.path with
  | tip :: rest => { progress with path := change tip :: rest }
  | [] => progress

/-- The kind of the innermost frame. -/
def Progress.tipKind (progress : Progress) : FrameKind :=
  match progress.path with
  | tip :: _ => tip.kind
  | [] => .document

/-- The fence at the front of a line. -/
def fenceLength (fence : Char) (text : List Char) : Nat := (text.takeWhile (· = fence)).length

/-- A line closes a fenced block. -/
def closesFence (fence : Char) (length : Nat) (cursor : Cursor) : Bool :=
  let found := fenceLength fence cursor.text
  cursor.indent ≤ 3 && 3 ≤ found && length ≤ found &&
    (cursor.text.drop found).all Markdown.isBlank

/-- The blanks at the front of a code line that the fence was indented by are dropped. -/
def skipFenceIndent : Nat → Cursor → Cursor
  | 0, cursor => cursor
  | count + 1, cursor =>
    if cursor.rest.head?.any Markdown.isBlank then skipFenceIndent count (cursor.skipColumns 1)
    else cursor

/-- How a line relates to an open frame. -/
inductive Continuation where
  /-- The frame goes on, with the rest of the line. -/
  | goesOn (cursor : Cursor)
  /-- The frame does not go on. -/
  | stops
  /-- The line ends the frame and belongs to it. -/
  | ends

/-- Whether a frame goes on with a line. -/
def Frame.continuation (frame : Frame) (hasChild : Bool) (cursor : Cursor) : Continuation :=
  match frame.kind with
  | .document | .list _ | .thematicBreak => .goesOn cursor
  | .quote =>
    if cursor.indent ≤ 3 && cursor.text.head? = some '>' then
      .goesOn (cursor.skipIndent.skipChars 1).skipOptionalBlank
    else .stops
  | .item indent =>
    if indent ≤ cursor.indent then .goesOn (cursor.skipColumns indent)
    -- An item that starts with a blank line and holds nothing yet ends there.
    else if cursor.isBlank && hasChild then .goesOn cursor.skipIndent
    else .stops
  -- A heading is one line.
  | .heading _ => .stops
  | .paragraph _ => if cursor.isBlank then .stops else .goesOn cursor
  | .fencedCode fence length offset =>
    -- Up to as many blanks as the fence was indented by are no part of the code.
    if closesFence fence length cursor then .ends else .goesOn (skipFenceIndent offset cursor)
  | .indentedCode =>
    if cursor.isCode then .goesOn (cursor.skipColumns codeIndent)
    else if cursor.isBlank then .goesOn cursor.skipIndent
    else .stops
  | .html kind => if cursor.isBlank && !kind.spansBlanks then .stops else .goesOn cursor
  -- A table goes on as long as a line can be a row, whatever the number of its cells.
  | .table .. => if (row? (cursor.text ++ ['\n'])).isSome then .goesOn cursor else .stops

/--
Goes along the open frames, the outermost first, as long as they go on with a line: how many do, the
rest of the line, and whether the line ended the frame behind them.
-/
def matchFrames : Cursor → List Frame → Nat × Cursor × Bool
  | cursor, [] => (0, cursor, false)
  | cursor, frame :: inner =>
    -- A frame inside of it is a part that is not closed yet.
    match frame.continuation (!frame.children.isEmpty || !inner.isEmpty) cursor with
    | .goesOn rest =>
      let (count, final, ended) := matchFrames rest inner
      (count + 1, final, ended)
    | .stops => (0, cursor, false)
    | .ends => (0, cursor, true)

/-- The level of the heading that a line with number signs starts. -/
def atxLevel? (text : List Char) : Option Nat :=
  let level := fenceLength '#' text
  let rest := text.drop level
  if 1 ≤ level ∧ level ≤ 6 ∧ (rest.isEmpty ∨ rest.head?.any Markdown.isBlank) then some level
  else none

/-- The text of a heading without the number signs that may close it. -/
def chopClosing (text : List Char) : List Char :=
  let trimmed := trimRight text
  let kept := trimmed.reverse.dropWhile (· = '#')
  -- Signs that no blank stands in front of are a part of the text.
  if kept.length = trimmed.length then trimmed
  else
    match kept with
    | [] => []
    | c :: _ => if Markdown.isBlank c then trimRight kept.reverse else trimmed

/-- The fence that opens a code block. -/
def openFence? (text : List Char) : Option (Char × Nat) :=
  match text with
  | c :: _ =>
    let length := fenceLength c text
    -- Behind backticks the info string holds none, or the line would be a span of code.
    if 3 ≤ length ∧ (c = '~' ∨ (c = '\x60' ∧ !(text.drop length).contains '\x60')) then
      some (c, length)
    else none
  | [] => none

/-- The level of the heading that a line of underlining makes of a paragraph. -/
def underlineLevel? (text : List Char) : Option Nat :=
  match text with
  | c :: _ =>
    if (c = '=' ∨ c = '-') ∧ (text.drop (fenceLength c text)).all Markdown.isBlank then
      some (if c = '=' then 1 else 2)
    else none
  | [] => none

/-- A line is a thematic break. -/
def isThematicBreak (text : List Char) : Bool :=
  match text with
  | c :: _ =>
    (c = '*' || c = '_' || c = '-') && 3 ≤ text.count c &&
      text.all fun d => d = c || Markdown.isBlank d
  | [] => false

/-- What stands behind a list marker allows for an item; one in a paragraph may not be empty. -/
def opensItem (inParagraph : Bool) (behind : List Char) : Bool :=
  match behind with
  | [] => !inParagraph
  | c :: _ => isSpace c && !(inParagraph && (dropBlanks behind).isEmpty)

/-- The marker at the front of a text and how long it is. -/
def listMarker? (inParagraph : Bool) (text : List Char) : Option (ListMarker × Nat) :=
  match text with
  | [] => none
  | c :: rest =>
    if c = '*' ∨ c = '-' ∨ c = '+' then
      if opensItem inParagraph rest then some (⟨some c, '.'⟩, 1) else none
    else
      -- Nine digits are the most that a marker has.
      let digits := (text.takeWhile Char.isDigit).take 9
      if digits.isEmpty ∨ (inParagraph ∧ decimalNumber digits ≠ 1) then none
      else
        match text.drop digits.length with
        | d :: behind =>
          if (d = '.' ∨ d = ')') ∧ opensItem inParagraph behind then
            some (⟨none, d⟩, digits.length + 1)
          else none
        | [] => none

/-- Columns of blanks passed over behind a list marker, up to a bound. -/
def skipMarkerBlanks : Nat → Cursor → Cursor
  | 0, cursor => cursor
  | count + 1, cursor =>
    if cursor.rest.head?.any Markdown.isBlank then skipMarkerBlanks count (cursor.skipColumns 1)
    else cursor

/-- The place where the content of an item starts, and its distance from the marker. -/
def itemContent (behind : Cursor) (markerLength : Nat) : Cursor × Nat :=
  let skipped := skipMarkerBlanks 6 behind
  let columns := skipped.column - behind.column
  -- Five columns or more are one blank and indented code; an item may also start with a blank line.
  if columns < 1 ∨ 5 ≤ columns ∨ skipped.rest.isEmpty then
    (if 0 < columns then behind.skipColumns 1 else behind, markerLength + 1)
  else (skipped, markerLength + columns)

/-- How many times a line may look for a block before no lists are opened any more. -/
def listDepthLimit : Nat := 100

/-- What looking for new blocks in a line came to. -/
structure Opened where
  /-- The frames after it. -/
  progress : Progress
  /-- The rest of the line. -/
  cursor : Cursor
  /-- A block was opened or changed. -/
  isNew : Bool

/-- A paragraph whose last line is the header of the table that a line of the source starts. -/
def tableHeader? (text : List Char) (line : List Char) : Option (Row × List Alignment) :=
  match row? line, row? text with
  | some delimiters, some header =>
    if delimiters.cells.length = header.cells.length then
      some (header, delimiters.cells.map alignmentOf)
    else none
  | _, _ => none

/-- How many cells the rows of a table may leave out before it takes no further row. -/
def missingCellLimit : Nat := 500000

/-- A row added to the table that is open. -/
def addRow (progress : Progress) (cells : List (List Char)) : Progress :=
  progress.updateTip fun frame =>
    match frame.kind with
    | .table alignments header rows missing =>
      let columns := alignments.length
      { frame with
        kind := .table alignments header (rows ++ [fitCells columns cells])
          (missing + (columns - cells.length)) }
    | _ => frame

/-- A table in place of the paragraph whose last line is its header. -/
def startTable (progress : Progress) (header : Row) (alignments : List Alignment) : Progress :=
  match progress.path with
  | tip :: outer :: rest =>
    -- What the paragraph holds in front of the header stays a paragraph of its own.
    let before := trim (unescapePipes header.before)
    let outer :=
      if header.before.isEmpty then outer
      else
        { outer with
          children :=
            { part := .block (.paragraph before), blankBehind := false } :: outer.children }
    let table : Frame := { tip with kind := .table alignments header.cells [] 0, lines := [] }
    { progress with path := table :: outer :: rest }
  | _ => progress

/-- Looks for a table in a line, for a frame that goes on with it. -/
def openTable (progress : Progress) (cursor : Cursor) (isNew : Bool) : Opened :=
  let line := cursor.text ++ ['\n']
  match progress.path with
  | tip :: _ =>
    match tip.kind with
    | .paragraph false =>
      if isDelimiterRow cursor.text then
        match tableHeader? tip.text line with
        | some (header, alignments) =>
          ⟨startTable progress header alignments, cursor.skipLine, true⟩
        | none =>
          -- That this paragraph is no header is remembered, and not looked at again.
          ⟨progress.updateTip fun frame => { frame with kind := .paragraph true }, cursor, isNew⟩
      else ⟨progress, cursor, isNew⟩
    | .table _ _ _ missing =>
      -- Once too many cells were left out there are no further rows.
      match if missingCellLimit < missing then none else row? line with
      | some row =>
        if cursor.isBlank then ⟨progress, cursor, isNew⟩
        else ⟨addRow progress row.cells, cursor.skipLine, true⟩
      | none => ⟨progress, cursor, isNew⟩
    | _ => ⟨progress, cursor, isNew⟩
  | [] => ⟨progress, cursor, isNew⟩

/--
Looks for the blocks that a line opens inside of the frames that go on with it. `depth` counts the
blocks looked for, and `lazy` says that the line may still go on with a paragraph further inside.
-/
def openBlocks (matched : Nat) (lazy : Bool) : Nat → Nat → Progress → Cursor → Bool → Opened
  | 0, _, progress, cursor, isNew => ⟨progress, cursor, isNew⟩
  | bound + 1, depth, progress, cursor, isNew =>
    -- A block may only open behind what the line does not go on with, which is closed for it.
    let container := if isNew then progress else progress.closeTo matched
    let kind := container.tipKind
    let text := cursor.text
    let opened (kind : FrameKind) (rest : Cursor) : Opened := ⟨container.push kind, rest, true⟩
    let inParagraph :=
      match kind with
      | .paragraph _ => true
      | _ => false
    let takesBlocks :=
      match kind with
      | .fencedCode .. | .indentedCode | .html _ => false
      | _ => true
    -- The content of code and of HTML is not looked at.
    if !takesBlocks then ⟨progress, cursor, isNew⟩
    else if cursor.isCode then
      -- Indented code does not interrupt a paragraph.
      if !lazy && !cursor.isBlank then opened .indentedCode (cursor.skipColumns codeIndent)
      else ⟨progress, cursor, isNew⟩
    else if text.head? = some '>' then
      let rest := (cursor.skipIndent.skipChars 1).skipOptionalBlank
      openBlocks matched false bound (depth + 1) (container.push .quote) rest true
    else
      match atxLevel? text with
      | some level =>
        opened (.heading level) ((cursor.skipIndent.skipChars level).skipIndent)
      | none =>
      match openFence? text with
      | some (fence, length) =>
        -- What the fence is indented by is taken off the lines of the code.
        let offset := cursor.rest.length - text.length
        opened (.fencedCode fence length offset) (cursor.skipIndent.skipChars length)
      | none =>
      -- A tag alone on its line does not interrupt a paragraph either.
      let html := (htmlBlockStart? text).or
        (if !inParagraph && isLoneTag text then some .tag else none)
      match html with
      | some html => opened (.html html) cursor
      | none =>
      match if inParagraph then underlineLevel? text else none with
      | some level =>
        match container.path with
        | tip :: rest =>
          -- A paragraph of definitions alone has no text that the line could underline.
          let (found, content) := splitDefinitions tip.text
          let defined := found.reverse ++ container.defined
          if startsBlank content then
            ⟨{ container with path := { tip with lines := [content] } :: rest, defined }, cursor,
              isNew⟩
          else
            ⟨{ container with
                path := { tip with kind := .heading level, lines := [content] } :: rest, defined },
              cursor.skipLine, true⟩
        | [] => ⟨progress, cursor, isNew⟩
      | none =>
      if isThematicBreak text then opened .thematicBreak cursor.skipLine
      else
        match if depth < listDepthLimit then listMarker? inParagraph text else none with
        | some (marker, length) =>
          let (rest, padding) := itemContent (cursor.skipIndent.skipChars length) length
          -- A different marker starts a list of its own.
          let inList :=
            match kind with
            | .list held => held == marker
            | _ => false
          let listed := if inList then container else container.push (.list marker)
          openBlocks matched false bound (depth + 1)
            (listed.push (.item (cursor.indent + padding))) rest true
        | none =>
          -- A table is only looked for in what goes on with the line itself.
          if isNew || progress.path.length = matched then openTable progress cursor isNew
          else ⟨progress, cursor, isNew⟩

/-- A frame whose last line was blank is remembered as such, but for some kinds. -/
def Frame.noteLine (frame : Frame) (blank hasChild : Bool) (line : Nat) : Frame :=
  -- A blank line in these is either content or belongs to what stands inside of them.
  let counts :=
    match frame.kind with
    | .quote | .heading _ | .thematicBreak | .fencedCode .. => false
    | .item _ => hasChild || frame.line ≠ line
    | .table _ _ rows _ => rows.isEmpty
    | _ => true
  { frame with blankBehind := blank && counts }

/-- A frame whose last closed part is followed by a blank line. -/
def Frame.noteBlankBehindChild (frame : Frame) : Frame :=
  match frame.children with
  | last :: rest => { frame with children := { last with blankBehind := true } :: rest }
  | [] => frame

/-- What a line leaves behind about blank lines in the open frames, of which some go on with it. -/
def noteBlank (matched : Nat) (blank : Bool) (progress : Progress) : Progress :=
  let pending := progress.path.take (progress.path.length - matched)
  let going := progress.path.drop (progress.path.length - matched)
  match going with
  | [] => progress
  | container :: outer =>
    -- Frames that do not go on are still open here, so that a paragraph may take a lazy line.
    let pending :=
      match pending.reverse with
      | next :: inner =>
        (if blank then { next with blankBehind := true } :: inner else next :: inner).reverse
      | [] => []
    let container :=
      if blank && pending.isEmpty then container.noteBlankBehindChild else container
    let hasChild := !container.children.isEmpty || !pending.isEmpty
    { progress with
      path := pending ++ container.noteLine blank hasChild progress.line ::
        outer.map fun frame => { frame with blankBehind := false } }

/-- The text of a line added to the innermost frame, or to a new paragraph in it. -/
def addText (progress : Progress) (cursor : Cursor) : Progress :=
  let addLine (line : List Char) (progress : Progress) : Progress :=
    progress.updateTip (·.addLine line)
  match progress.tipKind with
  | .fencedCode .. | .indentedCode => addLine (cursor.line ++ ['\n']) progress
  | .html kind =>
    let added := addLine (cursor.line ++ ['\n']) progress
    -- The line with the end condition is the last one of its block.
    if endsHtmlBlock kind cursor.text then added.closeTip else added
  | kind =>
    if cursor.isBlank then progress
    else
      match kind with
      | .heading _ => addLine (chopClosing cursor.text) progress
      | .paragraph _ => addLine (cursor.text ++ ['\n']) progress
      | _ => addLine (cursor.text ++ ['\n']) (progress.push (.paragraph false))

/-- The innermost frame is a paragraph. -/
def Progress.inParagraph (progress : Progress) : Bool :=
  match progress.tipKind with
  | .paragraph _ => true
  | _ => false

/-- The frames after one more line. -/
def Progress.addLine (before : Progress) (line : List Char) : Progress :=
  let progress := { before with line := before.line + 1 }
  let (matched, cursor, ended) := matchFrames { rest := line } progress.path.reverse
  -- A closing fence is used up by the block that it ends.
  if ended then progress.closeTo matched
  else
    let found := openBlocks matched progress.inParagraph (line.length + 2) 1 progress cursor false
    let noted := noteBlank (if found.isNew then found.progress.path.length else matched)
      found.cursor.isBlank found.progress
    -- A line that opens nothing goes on with a paragraph although not all around it goes on.
    if !found.isNew && matched < noted.path.length && !found.cursor.isBlank &&
        noted.inParagraph then
      noted.updateTip (·.addLine (found.cursor.line ++ ['\n']))
    else if found.isNew then addText noted found.cursor
    else addText (noted.closeTo matched) found.cursor

/-- The lines of a source, without their ends. -/
def sourceLines (text : List Char) : List (List Char) :=
  match text with
  | [] => []
  | '\n' :: rest => [] :: sourceLines rest
  | '\r' :: '\n' :: rest => [] :: sourceLines rest
  | '\r' :: rest => [] :: sourceLines rest
  | c :: rest =>
    -- A line end at the very end opens no further line.
    match rest, sourceLines rest with
    | [], _ => [[c]]
    | _, line :: more => (c :: line) :: more
    | _, [] => [[c]]

/-- A source without a byte order mark, and with a visible character for each null character. -/
def cleanSource (text : List Char) : List Char :=
  let shown := text.map fun c => if c = '\x00' then '\ufffd' else c
  match shown with
  | '\ufeff' :: rest => rest
  | _ => shown

/-- The blocks of a source with the text of their leaves, and the definitions in it. -/
def blocksOfSource (source : List Char) : List (Block (List Char)) × List Definition :=
  let start : Progress := { path := [{ kind := .document, line := 0 }] }
  let final := ((sourceLines (cleanSource source)).foldl Progress.addLine start).closeTo 1
  (final.path.head?.elim [] fun document => blocksOf document.children, final.defined.reverse)

end Manuscript.Markdown
