import Manuscript.Markdown.Text
import Manuscript.Text.Search

/-! Tags and other pieces of HTML in markdown. -/

namespace Manuscript.Markdown

/-- A letter of ASCII. -/
def isLetter (c : Char) : Bool := c.isAlpha

/-- A letter, a digit or a hyphen. -/
def isTagNameChar (c : Char) : Bool := c.isAlphanum || c = '-'

/-- A character that an attribute name may start with. -/
def isAttributeStart (c : Char) : Bool := c.isAlpha || c = '_' || c = ':'

/-- A character of an attribute name. -/
def isAttributeChar (c : Char) : Bool := c.isAlphanum || c = ':' || c = '.' || c = '_' || c = '-'

/-- A character of a value without quotes. -/
def isBareValueChar (c : Char) : Bool :=
  !isGap c && c ≠ '"' && c ≠ '\'' && c ≠ '=' && c ≠ '<' && c ≠ '>' && c ≠ '\x60'

/-- What follows an attribute value. -/
def afterValue? (text : List Char) : Option (List Char) :=
  match text with
  -- Quotes hold everything but themselves.
  | '"' :: rest => ((rest.dropWhile (· ≠ '"')).tail?)
  | '\'' :: rest => ((rest.dropWhile (· ≠ '\'')).tail?)
  | c :: rest => if isBareValueChar c then some (rest.dropWhile isBareValueChar) else none
  | [] => none

/-- What follows the value that an attribute may have, nothing when there is an error in it. -/
def afterOptionalValue? (text : List Char) : Option (List Char) :=
  match skipGap text with
  | '=' :: rest => afterValue? (skipGap rest)
  -- Blanks in front of no value are left where they are.
  | _ => some text

/-- What follows the attributes of a tag and its end; the bound limits how many there may be. -/
def afterAttributes? : Nat → List Char → Option (List Char)
  | 0, _ => none
  | bound + 1, text =>
    match skipGap text with
    | '>' :: rest => some rest
    | '/' :: '>' :: rest => some rest
    | c :: rest =>
      -- An attribute is set off from what stands before it.
      if isAttributeStart c ∧ text.head?.any isGap then
        (afterOptionalValue? (rest.dropWhile isAttributeChar)).bind (afterAttributes? bound)
      else none
    | [] => none

/-- What follows an opening tag behind its bracket. -/
def afterOpenTag? (text : List Char) : Option (List Char) :=
  match text with
  | c :: rest =>
    if isLetter c then afterAttributes? (text.length + 1) (rest.dropWhile isTagNameChar) else none
  | [] => none

/-- What follows a closing tag behind its bracket. -/
def afterCloseTag? (text : List Char) : Option (List Char) :=
  match text with
  | '/' :: c :: rest =>
    if isLetter c then
      match skipGap (rest.dropWhile isTagNameChar) with
      | '>' :: after => some after
      | _ => none
    else none
  | _ => none

/-- What follows a tag behind its bracket. -/
def afterTag? (text : List Char) : Option (List Char) :=
  (afterOpenTag? text).or (afterCloseTag? text)

/--
What follows the closing mark, which is a number of equal characters and a closing bracket. A full
run that is not followed by the bracket starts over behind the character that follows it.
-/
def afterRunEnd? (mark : Char) (run : Nat) : Nat → List Char → Option (List Char)
  | _, [] => none
  | seen, c :: rest =>
    -- Whatever follows a full run is used up with it, even another mark.
    if seen = run then
      if c = '>' then some rest else afterRunEnd? mark run 0 rest
    else if c = mark then afterRunEnd? mark run (seen + 1) rest
    else afterRunEnd? mark run 0 rest

/-- The pieces of inline HTML that are not tags, once one of which was found not to be closed. -/
structure HtmlGaps where
  comment : Bool := false
  cdata : Bool := false
  declaration : Bool := false
  instruction : Bool := false

/-- What follows a comment, behind the two hyphens that open it. -/
def afterComment? (text : List Char) : Option (List Char) :=
  match text with
  -- A comment may end right behind its start.
  | '>' :: rest => some rest
  | '-' :: '>' :: rest => some rest
  | _ => afterRunEnd? '-' 2 0 text

/-- What stands behind the first bracket of character data, in any case. -/
def cdataMark : List Char := "cdata[".toList

/-- A declaration: capital letters, set off from what they declare. -/
def startsDeclaration (text : List Char) : Bool :=
  text.head?.any Char.isUpper && (text.dropWhile Char.isUpper).head?.any isGap

/-- What follows a piece of HTML behind its bracket, and which kinds are not closed any more. -/
def afterInlineHtml (gaps : HtmlGaps) (text : List Char) : Option (List Char) × HtmlGaps :=
  match text with
  | '!' :: rest =>
    -- A comment that is not closed leaves no hope for what else starts with this mark.
    if gaps.comment then (none, gaps)
    else
      match rest with
      | '-' :: '-' :: more =>
        match afterComment? more with
        | some after => (some after, gaps)
        | none => (none, { gaps with comment := true })
      | '[' :: more =>
        if gaps.cdata then (none, gaps)
        else
          if startsFolded cdataMark more then
            match afterRunEnd? ']' 2 0 (more.drop cdataMark.length) with
            | some after => (some after, gaps)
            | none => (none, { gaps with cdata := true })
          else (none, gaps)
      | _ =>
        if !gaps.declaration && startsDeclaration rest then
          match rest.dropWhile (· ≠ '>') with
          | _ :: after => (some after, gaps)
          | [] => (none, { gaps with declaration := true })
        else (none, gaps)
  | '?' :: rest =>
    if gaps.instruction then (none, gaps)
    else
      match afterRunEnd? '?' 1 0 rest with
      | some after => (some after, gaps)
      | none => (none, { gaps with instruction := true })
  | _ => (afterTag? text, gaps)

/-- The kinds of HTML blocks, by how they start and end. -/
inductive HtmlBlockKind where
  /-- From a tag whose content is not markdown to its closing tag. -/
  | verbatim
  /-- A comment. -/
  | comment
  /-- A processing instruction. -/
  | instruction
  /-- A declaration. -/
  | declaration
  /-- Character data. -/
  | cdata
  /-- From a tag of a block to a blank line. -/
  | block
  /-- From any other tag that fills its line to a blank line. -/
  | tag
  deriving DecidableEq

/-- The tags whose content is not markdown. -/
def verbatimTags : List String := ["script", "pre", "textarea", "style"]

/-- The tags that start a block. -/
def blockTags : List String :=
  ["address", "article", "aside", "base", "basefont", "blockquote", "body", "caption", "center",
   "col", "colgroup", "dd", "details", "dialog", "dir", "div", "dl", "dt", "fieldset",
   "figcaption", "figure", "footer", "form", "frame", "frameset", "h1", "h2", "h3", "h4", "h5",
   "h6", "head", "header", "hr", "html", "iframe", "legend", "li", "link", "main", "menu",
   "menuitem", "nav", "noframes", "ol", "optgroup", "option", "p", "param", "search", "section",
   "summary", "table", "tbody", "td", "tfoot", "th", "thead", "title", "tr", "track", "ul"]

/-- The name of a tag, in lower case, and what follows it. -/
def tagName (text : List Char) : List Char × List Char :=
  ((text.takeWhile Char.isAlphanum).map Char.toLower, text.dropWhile Char.isAlphanum)

/-- A tag name ends where a blank, the line or the tag ends. -/
def endsTagName (rest : List Char) : Bool :=
  match rest with
  | [] => true
  | c :: _ => isGap c || c = '>'

/-- The kind of HTML block that a line starts, among those that need no blank line before them. -/
def htmlBlockStart? (text : List Char) : Option HtmlBlockKind :=
  match text with
  | '<' :: '!' :: '-' :: '-' :: _ => some .comment
  | '<' :: '?' :: _ => some .instruction
  | '<' :: '!' :: rest =>
    if startsFolded ('[' :: cdataMark) rest then some .cdata
    else if rest.head?.any Char.isUpper then some .declaration
    else none
  | '<' :: '/' :: rest =>
    -- Closing tags start a block as opening ones do, but for verbatim tags.
    let (name, after) := tagName rest
    if blockTags.any (·.toList = name) && (endsTagName after || "/>".toList.isPrefixOf after)
    then some .block else none
  | '<' :: rest =>
    let (name, after) := tagName rest
    if verbatimTags.any (·.toList = name) && endsTagName after then some .verbatim
    else if blockTags.any (·.toList = name) && (endsTagName after || "/>".toList.isPrefixOf after)
    then some .block else none
  | _ => none

/-- A line that holds one tag and nothing else. -/
def isLoneTag (text : List Char) : Bool :=
  match text with
  | '<' :: rest =>
    match afterTag? rest with
    | some after => after.all fun c => c = ' ' || c = '\t' || c = '\x0c'
    | none => false
  | _ => false

/-- A line on which a block of HTML ends; other kinds end at a blank line. -/
def endsHtmlBlock (kind : HtmlBlockKind) (text : List Char) : Bool :=
  match kind with
  | .verbatim =>
    -- Any of the tags ends the block, whichever opened it.
    let folded := text.map Char.toLower
    verbatimTags.any fun tag => occursIn ("</" ++ tag ++ ">").toList folded
  | .comment => occursIn "-->".toList text
  | .instruction => occursIn "?>".toList text
  | .declaration => occursIn ">".toList text
  | .cdata => occursIn "]]>".toList text
  | .block | .tag => false

/-- A block of HTML that goes on through blank lines. -/
def HtmlBlockKind.spansBlanks : HtmlBlockKind → Bool
  | .block | .tag => false
  | _ => true

end Manuscript.Markdown
