import Manuscript.Markdown.Autolink
import Manuscript.Markdown.Emphasis
import Manuscript.Markdown.Reference
import Manuscript.Markdown.Span

/-!
The inline content of a leaf, read from left to right. Brackets that were opened are kept with what
was read behind them until they are closed; emphasis is looked for once a bracket or the text ends.
-/

namespace Manuscript.Markdown

/-- An opening bracket. -/
structure Bracket where
  /-- It opens an image, not a link. -/
  isImage : Bool
  /-- What was read behind it, the last piece first. -/
  pieces : List Piece := []
  /-- The text behind it. -/
  behind : List Char
  /-- Another bracket was opened behind it. -/
  holdsBracket : Bool := false

/-- What was read of a text. -/
structure Reading where
  /-- The characters that were passed, the last one first. -/
  passed : List Char := []
  /-- The text that was not read. -/
  rest : List Char
  /-- The open brackets, the innermost first. -/
  brackets : List Bracket := []
  /-- What was read outside of them, the last piece first. -/
  pieces : List Piece := []
  /-- No bracket was opened since the last link was closed. -/
  linkClosed : Bool := true
  /-- A bracket was opened behind the last closing bracket. -/
  inBrackets : Bool := false
  /-- The kinds of HTML that are not closed any more. -/
  gaps : HtmlGaps := {}
  /-- The runs of backticks that were seen. -/
  ticks : TickRuns := {}
  /-- How many bytes the targets of further links by label may have. -/
  room : Nat

namespace Reading

/-- The reading moved to where a given text is left. -/
def moveTo (reading : Reading) (rest : List Char) : Reading :=
  -- What was passed is kept, as marks depend on what stands in front of them.
  let count := reading.rest.length - rest.length
  { reading with passed := (reading.rest.take count).reverse ++ reading.passed, rest }

/-- The pieces of the innermost bracket. -/
def here (reading : Reading) : List Piece :=
  match reading.brackets with
  | [] => reading.pieces
  | bracket :: _ => bracket.pieces

/-- The pieces of the innermost bracket replaced. -/
def withHere (reading : Reading) (pieces : List Piece) : Reading :=
  match reading.brackets with
  | [] => { reading with pieces }
  | bracket :: outer => { reading with brackets := { bracket with pieces } :: outer }

/-- A piece added at the end. -/
def add (reading : Reading) (piece : Piece) : Reading := reading.withHere (piece :: reading.here)

/-- Inline content added, and the reading moved to what follows it. -/
def give (reading : Reading) (content : Inline) (rest : List Char) : Reading :=
  (reading.add (.inline content)).moveTo rest

/-- Text added, and the reading moved to what follows it. -/
def giveText (reading : Reading) (text rest : List Char) : Reading :=
  reading.give (.text (String.ofList text)) rest

/-- A line end. Two spaces in front of it make it a hard one. -/
def lineEnd (reading : Reading) (rest : List Char) : Reading :=
  let content : Inline :=
    match reading.passed with
    | ' ' :: ' ' :: _ => .lineBreak
    | _ => .softBreak
  reading.give content (dropBlanks rest)

/-- What a backslash does to what follows it. -/
def backslash (reading : Reading) (rest : List Char) : Reading :=
  match rest with
  | [] => reading.giveText ['\\'] []
  | c :: more =>
    -- Only punctuation is escaped; a line end behind a backslash is a hard one.
    if isPunct c then reading.giveText [c] more
    else
      match afterLineEnd? rest with
      | some after => reading.give .lineBreak after
      | none => reading.giveText ['\\'] rest

/-- A run of marks that may be emphasis; quotes are runs of their own that only are text. -/
def marks (reading : Reading) (mark : Char) : Reading :=
  -- Quotes are looked at one by one, as they never are emphasis.
  let count := if mark = '"' ∨ mark = '\'' then 1 else runLength mark reading.rest
  let rest := reading.rest.drop count
  let run := Run.between (reading.passed.head?.getD '\n') mark count (rest.head?.getD '\n')
  if mark ≠ '"' ∧ mark ≠ '\'' ∧ (run.opens ∨ run.closes) then (reading.add (.run run)).moveTo rest
  else reading.giveText (List.replicate count mark) rest

/-- The scheme that an address between angle brackets starts with, and the rest of the address. -/
def bracketedPage? (text : List Char) : Option (List Char × List Char) :=
  let scheme := text.takeWhile fun c => c.isAlphanum || c = '.' || c = '+' || c = '-'
  match text.drop scheme.length with
  | ':' :: more =>
    -- A scheme has from two to 32 characters and starts with a letter.
    if scheme.head?.any isLetter ∧ 2 ≤ scheme.length ∧ scheme.length ≤ 32 then
      let tail := more.takeWhile fun c => 0x20 < c.toNat && c ≠ '<' && c ≠ '>'
      match more.drop tail.length with
      | '>' :: after => some (scheme ++ ':' :: tail, after)
      | _ => none
    else none
  | _ => none

/-- A part of a host name: letters, digits and hyphens, which do not stand at its ends. -/
def isHostLabel (text : List Char) : Bool :=
  text.head?.any Char.isAlphanum && text.getLast?.any Char.isAlphanum && text.length ≤ 63 &&
    text.all isTagNameChar

/-- A mail address between angle brackets, and what follows it. -/
def bracketedMail? (text : List Char) : Option (List Char × List Char) :=
  let name := text.takeWhile fun c =>
    c.isAlphanum || ".!#$%&'*+/=?^_\x60\x7b|\x7d~-".toList.contains c
  match text.drop name.length with
  | '@' :: more =>
    let host := more.takeWhile fun c => c ≠ '>'
    match more.drop host.length with
    | '>' :: after =>
      if !name.isEmpty && (piecesAt '.' host).all isHostLabel then some (name ++ '@' :: host, after)
      else none
    | _ => none
  | _ => none

/-- A link whose content is the address between angle brackets. -/
def bracketedLink (start : String) (address : List Char) : Inline :=
  let text := String.ofList (unescapeReferences address)
  .link ⟨start ++ text, ""⟩ [.text text]

/-- An address between angle brackets, a piece of HTML, or only the bracket. -/
def angle (reading : Reading) (rest : List Char) : Reading :=
  match bracketedPage? rest with
  | some (address, after) => reading.give (bracketedLink "" address) after
  | none =>
    match bracketedMail? rest with
    | some (address, after) => reading.give (bracketedLink "mailto:" address) after
    | none =>
      match afterInlineHtml reading.gaps rest with
      | (some after, gaps) =>
        let html := '<' :: rest.take (rest.length - after.length)
        { reading with gaps }.give (.html (String.ofList html)) after
      -- A piece that is not closed is remembered, so that its end is not looked for again.
      | (none, gaps) => { reading with gaps }.giveText ['<'] rest

/-- A bracket opened. -/
def openBracket (reading : Reading) (isImage : Bool) (behind : List Char) : Reading :=
  -- A bracket that holds another one is no label by itself.
  let outer :=
    match reading.brackets with
    | [] => []
    | bracket :: more => { bracket with holdsBracket := true } :: more
  let moved := reading.moveTo behind
  { moved with
    brackets := { isImage, behind } :: outer
    -- A bracket that could be a link lets links be closed again.
    linkClosed := reading.linkClosed && isImage
    inBrackets := true }

/-- The innermost bracket as text, its pieces behind it. -/
def dropBracket (reading : Reading) : Reading :=
  match reading.brackets with
  | [] => reading
  | bracket :: outer =>
    let mark : Piece := .inline (.text (if bracket.isImage then "![" else "["))
    let outside := { reading with brackets := outer }
    outside.withHere (bracket.pieces ++ mark :: outside.here)

/-- A target in parentheses, and what follows it. -/
def target? (text : List Char) : Option (Target × List Char) :=
  match text with
  | '(' :: more =>
    match destination? (skipGap more) with
    | some (url, behindUrl) =>
      let spaced := skipGap behindUrl
      -- A title has to be set off by a blank.
      let found := if spaced.length = behindUrl.length then none else title? spaced
      let (title, behindTitle) := found.getD ([], spaced)
      match skipGap behindTitle with
      | ')' :: after => some (⟨cleanUrl url, cleanText title⟩, after)
      | _ => none
    | none => none
  | _ => none

/--
The target of a bracket that is closed in front of a text, what follows it, and the room that is
left for targets by label.
-/
def targetOf? (defined : List Definition) (room : Nat) (bracket : Bracket) (rest : List Char) :
    Option (Target × List Char × Nat) :=
  match target? rest with
  | some (target, after) => some (target, after, room)
  | none =>
    let written := label? rest
    -- Without a label of its own a bracket is its own label, unless it holds another bracket.
    let within := bracket.behind.take (bracket.behind.length - rest.length - 1)
    let (label, after) :=
      match written with
      | some (label, after) =>
        (if label.isEmpty && !bracket.holdsBracket then some within else some label, after)
      | none => (if bracket.holdsBracket then none else some within, rest)
    label.bind fun label =>
      (lookupLabel? defined room label).map fun (target, left) => (target, after, left)

/-- A bracket closed: a link or an image if it has a target. -/
def closeBracket (defined : List Definition) (reading : Reading) (rest : List Char) : Reading :=
  let reading := { reading with inBrackets := false }
  match reading.brackets with
  | [] => reading.giveText [']'] rest
  | bracket :: outer =>
    let asText := reading.dropBracket.giveText [']'] rest
    -- Links hold no links.
    if !bracket.isImage && reading.linkClosed then asText
    else
      match targetOf? defined reading.room bracket rest with
      | none => asText
      | some (target, after, room) =>
        -- Emphasis in the brackets is settled before they become content.
        let content := resolveEmphasis bracket.pieces.reverse
        let made := if bracket.isImage then Inline.image target content else .link target content
        let outside :=
          { reading with
            brackets := outer, linkClosed := reading.linkClosed || !bracket.isImage, room }
        outside.give made after

/-- Pieces, the last one first, without a number of characters of text at their end. -/
def dropText : Nat → List Piece → List Piece
  | 0, pieces => pieces
  | count, .inline (.text text) :: rest =>
    let chars := text.toList
    -- The text may be spread over several pieces, as some letters end a piece.
    if count < chars.length then
      .inline (.text (String.ofList (chars.take (chars.length - count)))) :: rest
    else dropText (count - chars.length) rest
  | _, pieces => pieces

/-- A colon, which may belong to the address of a page. -/
def colon (reading : Reading) (rest : List Char) : Reading :=
  -- Behind an open bracket no address is looked for.
  match if reading.inBrackets then none else pageAtColon? reading.passed reading.rest with
  | some (scheme, link, after) =>
    -- The scheme was read as text already, and is taken back.
    (reading.withHere (dropText scheme.length reading.here)).give link after
  | none => reading.giveText [':'] rest

/-- The letter that may start the address of a page. -/
def letterW (reading : Reading) (rest : List Char) : Reading :=
  match if reading.inBrackets then none else pageAtWww? reading.passed reading.rest with
  | some (link, after) => reading.give link after
  | none => reading.giveText ['w'] rest

/-- A character at which plain text ends. -/
def endsText (c : Char) : Bool := "\n\r_*\"\x60\\&<[]!:w$".toList.contains c

/-- Plain text. Spaces at line ends are dropped. -/
def plain (reading : Reading) (first : Char) (rest : List Char) : Reading :=
  let text := first :: rest.takeWhile fun c => !endsText c
  let after := rest.dropWhile fun c => !endsText c
  -- Spaces in front of a line end were only needed to see whether it is hard.
  let shortened := if after.head?.any fun c => c = '\n' || c = '\r' then trimRight text else text
  let afterBreak :=
    match reading.here with
    | .inline .lineBreak :: _ => true
    | _ => false
  reading.giveText (if afterBreak then trimLeft shortened else shortened) after

/-- One more piece read. -/
def step (defined : List Definition) (reading : Reading) : Reading :=
  match reading.rest with
  | [] => reading
  | '\r' :: '\n' :: rest => reading.lineEnd rest
  | c :: rest =>
    match c with
    | '\r' | '\n' => reading.lineEnd rest
    | '\x60' =>
      let count := runLength c reading.rest
      let behind := reading.rest.drop count
      match codeSpan? reading.ticks count behind with
      | (some (code, after), ticks) => { reading with ticks }.give (.code code) after
      | (none, ticks) => { reading with ticks }.giveText (List.replicate count c) behind
    | '\\' => reading.backslash rest
    | '&' =>
      match reference? rest with
      | some (meant, after) => reading.giveText meant after
      | none => reading.giveText [c] rest
    | '<' => reading.angle rest
    | ':' => reading.colon rest
    | 'w' => reading.letterW rest
    | '*' | '_' | '\'' | '"' => reading.marks c
    | '-' | '.' => reading.giveText [c] rest
    | '[' => reading.openBracket false rest
    | ']' => reading.closeBracket defined rest
    | '!' =>
      match rest with
      -- A caret makes an image a footnote, of which there are none.
      | '[' :: '^' :: _ => reading.giveText [c] rest
      | '[' :: behind => reading.openBracket true behind
      | _ => reading.giveText [c] rest
    | '$' =>
      let count := runLength c reading.rest
      let behind := reading.rest.drop count
      match mathSpan? count behind with
      | some (math, after) => reading.give math after
      | none => reading.giveText (List.replicate count c) behind
    | _ => reading.plain c rest

/-- A text read to its end, each step taking a part of it. -/
def toEnd (defined : List Definition) : Nat → Reading → Reading
  | 0, reading => reading
  | bound + 1, reading =>
    if reading.rest.isEmpty then reading else toEnd defined bound (reading.step defined)

/-- All pieces, with the brackets that were not closed as text. -/
def allPieces : Nat → Reading → List Piece
  | 0, reading => reading.pieces.reverse
  | bound + 1, reading =>
    if reading.brackets.isEmpty then reading.pieces.reverse else allPieces bound reading.dropBracket

end Reading

/-- Texts that stand side by side put together, outside of links and images. -/
def joinText : List Inline → List Inline
  | .text a :: rest =>
    match joinText rest with
    | .text b :: more => .text (a ++ b) :: more
    | more => .text a :: more
  | content :: rest => content :: joinText rest
  | [] => []

/-- A text with the mail addresses in it as links, and any other content as it is. -/
def linkText : Inline → List Inline
  | .text text => linkMail text.toList.length text.toList
  | content => [content]

mutual

/-- Content with texts put together and mail addresses as links, outside of links and images. -/
def tidy : Inline → Inline
  | .emphasis content => .emphasis ((joinText (tidyAll content)).flatMap linkText)
  | .strong content => .strong ((joinText (tidyAll content)).flatMap linkText)
  | content => content

/-- Each part tidied. -/
def tidyAll : List Inline → List Inline
  | [] => []
  | content :: rest => tidy content :: tidyAll rest

end

/--
The inline content of a text, with the definitions of the document. What is kept from one text to
the next is the room for targets by label.
-/
def inlinesOfText (defined : List Definition) (text : List Char) : StateM Nat (List Inline) :=
  fun room =>
    -- Each step moves forward, so that the length of the text bounds their number.
    let content := trimRight text
    let final := Reading.toEnd defined content.length { rest := content, room }
    let pieces := Reading.allPieces final.brackets.length final
    ((joinText (tidyAll (resolveEmphasis pieces))).flatMap linkText, final.room)

end Manuscript.Markdown
