import Manuscript.Config.Yaml.Lines
import Manuscript.Config.Yaml.Plain
import Manuscript.Config.Yaml.Quoted
import Manuscript.Config.Yaml.Tag

/-!
Documents as tokens. Where a mapping and a key start is known only once the colon behind the key was
found, so that the tokens behind the place of a possible key are kept apart until then. Collections
inside of members are not read.
-/

namespace Manuscript.Config.Yaml

/-- A piece of a document. -/
inductive Token where
  | directive (meaning : Directive)
  | documentStart
  | documentEnd
  /-- The start of a mapping whose keys stand below one another. -/
  | mappingStart
  | mappingEnd
  /-- The start of a mapping between braces. -/
  | braceOpen
  | braceClose
  | comma
  | key
  | value
  /-- The value of an anchor once more. -/
  | alias (name : List Char)
  /-- A name for the value that follows. -/
  | anchor (name : List Char)
  | tag (tag : Tag)
  | scalar (isPlain : Bool) (text : List Char)

/-- Which collections are open. -/
structure Layout where
  /-- The column of the keys that stand below one another. -/
  margin : Option Nat := none
  /-- What is read belongs to the value of a key, and stands further inside than the key. -/
  inside : Bool := false
  /-- A brace is open. -/
  braced : Bool := false

namespace Layout

/-- The least column of what continues a plain text. -/
def depth (layout : Layout) : Nat :=
  layout.margin.elim 0 fun margin => if layout.inside then margin + 2 else margin + 1

/-- The layout of texts, which only have to stand further inside than the keys. -/
def ofText (layout : Layout) : Layout := { layout with inside := false }

/-- The layout of the value of a key. -/
def ofValue (layout : Layout) : Layout :=
  if layout.margin.isSome then { layout with inside := true } else layout

/-- The layout where content stands in a column, and whether a mapping ends in front of it. -/
def atColumn (layout : Layout) (column : Nat) : Layout × Bool :=
  match layout.margin with
  | none => (layout, false)
  | some margin =>
    -- Content in front of the keys ends their mapping.
    if column < margin then ({ layout with margin := none, inside := false }, true)
    -- In the column of the keys stands the next key, and no value any more.
    else if column = margin then (layout.ofText, false)
    else (layout, false)

/--
The layout with a key in a column, and whether a mapping starts with it. A key further inside would
be one of a collection in a member.
-/
def withKey? (layout : Layout) (column : Nat) : Option (Layout × Bool) :=
  match layout.margin with
  | none => some (if layout.braced then layout else { layout with margin := some column },
      !layout.braced)
  | some margin => if column = margin ∧ !layout.inside then some (layout, false) else none

end Layout

/-- A place where a key may start. -/
structure KeyStart where
  line : Nat
  column : Nat
  /-- How many characters follow. -/
  left : Nat
  /-- A key has to start there. -/
  required : Bool

/-- How far the colon may be behind the start of its key. -/
def keyLimit : Nat := 1024

/-- What was read of a document. -/
structure Scan where
  cursor : Cursor
  layout : Layout := {}
  /-- The tokens in front of the place where a key may start, the last one first. -/
  settled : List Token := []
  /-- The tokens behind that place, the last one first. -/
  pending : List Token := []
  /-- The place where a key may start. -/
  start : Option KeyStart := none
  /-- A key may start at the next token. -/
  mayKey : Bool := true
  /-- How many characters followed the last quoted text, behind which a value may stand at once. -/
  quotedAt : Option Nat := none

namespace Scan

/-- The scan with a token added. -/
def emit (scan : Scan) (token : Token) : Scan := { scan with pending := token :: scan.pending }

/-- The scan with a token added if a condition holds. -/
def emitIf (scan : Scan) (condition : Bool) (token : Token) : Scan :=
  if condition then scan.emit token else scan

/-- The scan at a token at which a key may start, if keys may start there. -/
def markStart (scan : Scan) : Scan :=
  if !scan.mayKey then scan
  else
    let cursor := scan.cursor
    -- In the column of the keys nothing but a key may stand.
    let required := !scan.layout.inside && scan.layout.margin = some cursor.column
    { scan with
      -- No mark of a key can come in front of what was read up to here any more.
      settled := scan.pending ++ scan.settled, pending := []
      start := some ⟨cursor.line, cursor.column, cursor.left, required⟩ }

/-- The scan without a place where a key may start; a key that is required is missing then. -/
def dropStart? (scan : Scan) : Option Scan :=
  if scan.start.any (·.required) then none else some { scan with start := none }

/-- The scan without a key that is too far behind; between braces keys may be of any length. -/
def dropStale? (scan : Scan) : Option Scan :=
  -- A key ends on the line where it starts, and within the limit.
  let isStale := scan.start.any fun start =>
    start.line < scan.cursor.line || scan.cursor.left + keyLimit < start.left
  if isStale && !scan.layout.braced then scan.dropStart? else some scan

/--
The scan in front of the next token; the bound limits the steps. Tabs do not indent what is open,
and a key may start on a new line.
-/
def toToken? : Nat → Scan → Option Scan
  | 0, scan => some scan
  | bound + 1, scan =>
    let cursor := scan.cursor
    match cursor.rest with
    | [] => some scan
    | c :: _ =>
      let isOpen := scan.layout.margin.isSome && cursor.fresh
      if c = '\t' ∧ isOpen ∧ cursor.column + 1 < scan.layout.depth then do
        -- Behind such a tab the line has to end.
        toToken? bound { scan with cursor := ← cursor.lineEnd? }
      else if isBlank c then toToken? bound { scan with cursor := cursor.skip 1 }
      else if isBreak c then
        -- Between braces only marks make room for a key, and line ends do not.
        let mayKey := scan.mayKey || !scan.layout.braced
        toToken? bound { scan with cursor := cursor.nextLine, mayKey }
      else if c = '#' then toToken? bound { scan with cursor := cursor.passLine }
      else some scan

/-- The scan behind the spaces, line ends and comments that have to follow the mark of a key. -/
def pastKeyMark? : Nat → Bool → Cursor → Option Cursor
  | 0, _, _ => none
  | bound + 1, found, cursor =>
    match cursor.rest with
    | ' ' :: _ => pastKeyMark? bound true (cursor.skip 1)
    | '#' :: _ => pastKeyMark? bound found cursor.passLine
    -- A tab in place of an indentation is refused.
    | '\t' :: _ => none
    | c :: _ =>
      if isBreak c then pastKeyMark? bound true cursor.nextLine
      else if found then some cursor else none
    | [] => if found then some cursor else none

/-- The scan where content stands in a column: a mapping further inside ends. -/
def closeTo (scan : Scan) (column : Nat) : Scan :=
  if scan.layout.braced then scan
  else
    let (layout, ends) := scan.layout.atColumn column
    { scan with layout }.emitIf ends .mappingEnd

/-- The scan where nothing is open any more. -/
def closeAll (scan : Scan) : Scan :=
  { scan with layout := {} }.emitIf scan.layout.margin.isSome .mappingEnd

/-- A key after its mark. -/
def explicitKey? (scan : Scan) : Option Scan := do
  let inBraces := scan.layout.braced
  guard (inBraces || scan.mayKey)
  let (layout, starts) ← scan.layout.withKey? scan.cursor.column
  -- The mark takes the place of a key that might have started here.
  let kept ← ({ scan with layout }.emitIf starts .mappingStart).dropStart?
  let behind := scan.cursor.pass 1
  let cursor ← pastKeyMark? (behind.left + 1) false behind
  return { kept with cursor, mayKey := !inBraces }.emit .key

/-- The cursor behind a colon. A tab alone does not set off a word. -/
def pastColon? (cursor : Cursor) : Option Cursor :=
  let behind := cursor.pass 1
  if behind.rest.head? = some '\t' then do
    let (gap, next) ← behind.gap?
    if !gap.space && next.rest.head?.any fun c => isWordChar c && c ≠ '_' then none else some next
  else some behind

/-- A value after its colon. What stands in front of the colon may turn out to be a key. -/
def value? (scan : Scan) : Option Scan := do
  let inBraces := scan.layout.braced
  let cursor ← pastColon? scan.cursor
  match scan.start with
  -- The mark of the key goes in front of what was read since its start.
  | some start =>
    let (layout, starts) ← scan.layout.withKey? start.column
    let before := if starts then .mappingStart :: scan.settled else scan.settled
    let found : Scan :=
      { scan with
        cursor, layout := layout.ofValue, settled := .key :: before, start := none,
        mayKey := false }
    return found.emit .value
  -- With nothing in front of the colon the key is empty.
  | none =>
    guard (inBraces || scan.mayKey)
    let (layout, starts) ← scan.layout.withKey? scan.cursor.column
    let opened := scan.emitIf starts .mappingStart
    return { opened with cursor, layout := layout.ofValue, mayKey := !inBraces }.emit .value

/-- An alias or an anchor: a mark and a name. -/
def named? (scan : Scan) (token : List Char → Token) : Option Scan :=
  let name := (scan.cursor.rest.drop 1).takeWhile fun c =>
    !isBlank c && !isBreak c && !isFlowMark c && c ≠ '\ufeff'
  if name.isEmpty then none
  else
    let cursor := scan.cursor.pass (name.length + 1)
    some ({ scan.markStart with cursor, mayKey := false }.emit (token name))

/-- A tag. -/
def tagged? (scan : Scan) : Option Scan := do
  let (tag, cursor) ← tag? scan.layout.braced scan.cursor
  return { scan.markStart with cursor, mayKey := false }.emit (.tag tag)

/-- A text of whole lines, behind which a key may start. -/
def block? (scan : Scan) (literal : Bool) : Option Scan := do
  let (text, cursor) ← Yaml.block? literal scan.layout.margin (scan.cursor.pass 1)
  let marked := scan.markStart
  return { marked with cursor, layout := marked.layout.ofText, mayKey := true }.emit
    (.scalar false text)

/-- A text in quotes. -/
def quoted? (scan : Scan) : Option Scan := do
  let (text, cursor) ← Yaml.quoted? scan.layout.braced scan.layout.depth scan.cursor
  let read : Scan := { scan.markStart with cursor, mayKey := false }
  -- What follows is passed over at once, as a colon there may touch the quotes.
  let next ← read.toToken? (cursor.left + 1)
  return { next with quotedAt := some next.cursor.left }.emit (.scalar false text)

/-- A text without quotes. Behind a line end that follows it a key may start. -/
def plain? (scan : Scan) : Option Scan := do
  let marked := scan.markStart
  let layout := marked.layout.ofText
  let (text, cursor) ← Yaml.plain? layout.braced layout.depth scan.cursor
  return { marked with cursor, layout, mayKey := cursor.fresh }.emit (.scalar true text)

/-- A mark of a mapping between braces, and the blanks that follow it on its line. -/
def braceMark? (scan : Scan) (layout : Layout) (mayKey : Bool) (token : Token) : Option Scan := do
  let dropped ← scan.dropStart?
  let (_, cursor) ← (scan.cursor.pass 1).gap?
  return { dropped with cursor, layout, mayKey }.emit token

/-- A line that starts or ends a document, nothing else on it when it ends one. -/
def marker? (scan : Scan) : Option Scan := do
  let dropped ← scan.closeAll.dropStart?
  let behind := scan.cursor.pass 3
  if scan.cursor.rest.head? = some '-' then
    return { dropped with cursor := behind, mayKey := false }.emit .documentStart
  else
    return { dropped with cursor := ← behind.lineEnd?, mayKey := false }.emit .documentEnd

/-- A directive. -/
def directed? (scan : Scan) : Option Scan := do
  let dropped ← scan.closeAll.dropStart?
  let (found, cursor) ← directive? scan.cursor
  return { dropped with cursor, mayKey := false }.emit (.directive found)

/-- One more token, the scan in front of it. Items of lists and what brackets open are not read. -/
def token? (scan : Scan) : Option Scan :=
  let cursor := scan.cursor
  let layout := scan.layout
  match cursor.rest with
  | [] => some scan
  | c :: rest =>
    -- Directives, and the marks of documents, stand at the start of a line.
    if cursor.column = 0 ∧ c = '%' then if layout.braced then none else scan.directed?
    else if cursor.isMarker then if layout.braced then none else scan.marker?
    else
      let endsHere := endsWord rest
      match c with
      -- Lists between brackets are not read, and the other marks start nothing.
      | '[' | ']' | '%' | '@' | '\x60' => none
      | '\x7b' =>
        -- Mappings between braces are read where no other mapping is open.
        if layout.braced || layout.margin.isSome then none
        else scan.braceMark? { layout with braced := true } true .braceOpen
      | '\x7d' =>
        if layout.braced then scan.braceMark? { layout with braced := false } false .braceClose
        else none
      | ',' => if layout.braced then scan.braceMark? layout true .comma else none
      | '*' => scan.named? .alias
      | '&' => scan.named? .anchor
      | '!' => scan.tagged?
      | '\'' | '"' => scan.quoted?
      -- Between braces there are no texts of whole lines.
      | '|' | '>' => if layout.braced then scan.plain? else scan.block? (c = '|')
      -- A dash by itself would start an item of a list.
      | '-' => if endsHere then none else scan.plain?
      | '?' => if endsHere then scan.explicitKey? else scan.plain?
      | ':' =>
        -- Between braces a colon may touch what follows it, or the quotes in front of it.
        let touches := rest.head?.any isFlowMark || scan.quotedAt = some cursor.left
        if endsHere || (layout.braced && touches) then scan.value? else scan.plain?
      | _ => scan.plain?

/-- All tokens, in order; the bound limits how many there may be. -/
def tokens? : Nat → Scan → Option (List Token)
  | 0, _ => none
  | bound + 1, scan => do
    let found ← scan.toToken? (scan.cursor.left + 1)
    -- A key that is too far behind is given up before columns are compared.
    let ready := (← found.dropStale?).closeTo found.cursor.column
    if ready.cursor.rest.isEmpty then
      -- At the end no key is missing.
      let final := (← ready.dropStart?).closeAll
      return (final.pending ++ final.settled).reverse
    else tokens? bound (← ready.token?)

end Scan

/-- The tokens of a text. -/
def tokensOf? (text : List Char) : Option (List Token) :=
  Scan.tokens? (text.length + 1) { cursor := .ofText text }

end Manuscript.Config.Yaml
