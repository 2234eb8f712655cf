import Manuscript.Markdown.Entity
import Manuscript.Markdown.Syntax
import Manuscript.Markdown.Text
import Manuscript.Unicode.CaseFolding
import Manuscript.Unicode.Whitespace

/-! Link labels, destinations and titles, and the definitions of reference links. -/

namespace Manuscript.Markdown

/-- How many bytes a label may have. -/
def labelLimit : Nat := 1000

/-- The rest of a label up to its closing bracket, of which a number of bytes may be used. -/
def labelTail? : Nat → List Char → Option (List Char × List Char)
  | _, [] => none
  | room, '\\' :: c :: rest =>
    if isPunct c then
      -- An escaped bracket does not end the label; the backslash stays in it.
      if room < 2 then none
      else (labelTail? (room - 2) rest).map fun (label, after) => ('\\' :: c :: label, after)
    else
      -- Any other backslash is a character by itself.
      if room < 1 then none
      else (labelTail? (room - 1) (c :: rest)).map fun (label, after) => ('\\' :: label, after)
  | room, c :: rest =>
    -- Labels hold no brackets, and a limited number of bytes.
    if c = '[' then none
    else if c = ']' then some ([], rest)
    else
      let size := c.utf8Size
      if room < size then none
      else (labelTail? (room - size) rest).map fun (label, after) => (c :: label, after)

/-- A label in brackets, without the white space at its ends, and what follows it. -/
def label? (text : List Char) : Option (List Char × List Char) :=
  match text with
  | '[' :: rest => (labelTail? labelLimit rest).map fun (label, after) => (trim label, after)
  | _ => none

/-- A text in which every run of white space is one space. -/
def collapseSpaces : List Char → List Char
  | [] => []
  | c :: rest =>
    if Unicode.isWhitespace c then
      -- The last one of a run leaves the space.
      if rest.head?.any Unicode.isWhitespace then collapseSpaces rest
      else ' ' :: collapseSpaces rest
    else c :: collapseSpaces rest

/-- The form of a label in which two labels that mean the same are equal. -/
def normalizeLabel (label : List Char) : List Char :=
  Unicode.foldChars (collapseSpaces (trim label))

/-- The rest of a destination in angle brackets. -/
def bracketedUrlTail? : List Char → Option (List Char × List Char)
  | [] => none
  -- Something has to follow the bracket.
  | '>' :: rest => if rest.isEmpty then none else some ([], rest)
  | '\\' :: c :: rest => (bracketedUrlTail? rest).map fun (url, after) => ('\\' :: c :: url, after)
  | c :: rest =>
    if c = '\n' ∨ c = '\r' ∨ c = '<' then none
    else (bracketedUrlTail? rest).map fun (url, after) => (c :: url, after)

/-- How deeply parentheses in a destination may be nested. -/
def parenLimit : Nat := 32

/-- A control character of ASCII. -/
def isControl (c : Char) : Bool := c.toNat < 0x20 || c.toNat = 0x7f

/-- The rest of a destination without brackets, inside of a number of parentheses. -/
def bareUrl? : Nat → List Char → Option (List Char × List Char)
  | _, [] => none
  | level, '\\' :: c :: rest =>
    if isPunct c then (bareUrl? level rest).map fun (url, after) => ('\\' :: c :: url, after)
    else (bareUrl? level (c :: rest)).map fun (url, after) => ('\\' :: url, after)
  | level, c :: rest =>
    if c = '(' then
      -- Parentheses are kept as long as they pair up.
      if parenLimit ≤ level then none
      else (bareUrl? (level + 1) rest).map fun (url, after) => (c :: url, after)
    else if c = ')' then
      match level with
      -- A parenthesis that none opened ends the destination.
      | 0 => some ([], c :: rest)
      | level + 1 => (bareUrl? level rest).map fun (url, after) => (c :: url, after)
    else if isSpace c || isControl c then
      -- Blanks end a destination, but not inside of parentheses.
      if level = 0 then some ([], c :: rest) else none
    else (bareUrl? level rest).map fun (url, after) => (c :: url, after)

/-- A link destination and what follows it; something has to follow. -/
def destination? (text : List Char) : Option (List Char × List Char) :=
  match text with
  | '<' :: rest => bracketedUrlTail? rest
  | c :: _ => if isSpace c || isControl c then none else bareUrl? 0 text
  | [] => none

/--
The rest of a title up to its closing mark, as long as it can be: a mark behind a backslash may end
the title, but does so only when no further mark ends it.
-/
def titleTail? (opening closing previous : Char) :
    List Char → Option (List Char × List Char)
  | [] => none
  | c :: rest =>
    -- Escapes are resolved later, and only tell here whether a mark may end the title.
    if c = closing ∧ previous ≠ '\\' then some ([], rest)
    else if c = opening ∧ previous ≠ '\\' then none
    else
      let longer :=
        (titleTail? opening closing c rest).map fun (title, after) => (c :: title, after)
      if c = closing then longer.or (some ([], rest)) else longer

/-- A title without its marks, and what follows it. -/
def title? (text : List Char) : Option (List Char × List Char) :=
  match text with
  | '"' :: rest => titleTail? '"' '"' '"' rest
  | '\'' :: rest => titleTail? '\'' '\'' '\'' rest
  | '(' :: rest => titleTail? '(' ')' '(' rest
  | _ => none

/-- A destination or a title with its escapes resolved. -/
def cleanText (text : List Char) : String :=
  String.ofList (unescapeBackslashes (unescapeReferences text))

/-- A destination with its escapes resolved. -/
def cleanUrl (url : List Char) : String := cleanText (trim url)

/-- What a label refers to. -/
structure Definition where
  /-- The normal form of the label. -/
  label : List Char
  /-- Where links with the label lead. -/
  target : Target

/-- The definition at the front of a text, when its label is not empty, and what follows it. -/
def definition? (text : List Char) : Option (Option Definition × List Char) := do
  let (label, behindLabel) ← label? text
  if label.isEmpty then none
  else
    let behindColon ← afterStart? [':'] behindLabel
    let (url, behindUrl) ← destination? (skipSpacing behindColon)
    let spaced := skipSpacing behindUrl
    -- A title is set off from the destination.
    let found := if spaced.length = behindUrl.length then none else title? spaced
    let (title, behindTitle) := found.getD ([], behindUrl)
    let after ←
      match afterLineEnd? (dropBlanks behindTitle) with
      | some after => some after
      -- What follows a title on its line undoes the title if the destination ends a line.
      | none => if found.isSome then afterLineEnd? (dropBlanks behindUrl) else none
    let normal := normalizeLabel label
    let target : Target := ⟨cleanUrl url, cleanText title⟩
    -- A label that stands for nothing is taken off the text all the same.
    return (if normal.isEmpty then none else some ⟨normal, target⟩, after)

/-- A text starts with a blank line, or has no line. -/
def startsBlank (text : List Char) : Bool :=
  match dropBlanks text with
  | [] => true
  | c :: _ => c = '\n' || c = '\r'

/-- The definitions at the front of a text, and the text behind them; each takes a part of it. -/
def definitions : Nat → List Char → List Definition × List Char
  | 0, text => ([], text)
  | bound + 1, text =>
    match definition? text with
    | none => ([], text)
    | some (found, after) =>
      let (more, rest) := definitions bound after
      (found.toList ++ more, rest)

/-- The definitions at the front of a paragraph, and what is left of the paragraph. -/
def splitDefinitions (text : List Char) : List Definition × List Char :=
  definitions (text.length + 1) text

/--
How many bytes the targets of all links by label in a document may have together. A short document
that uses a long target over and over would grow without bound otherwise.
-/
def roomOfSource (source : String) : Nat := max source.utf8ByteSize 100000

/--
What a label refers to, by the first definition of it, and the room that is left. Where there is no
room for the target, the label refers to nothing.
-/
def lookupLabel? (defined : List Definition) (room : Nat) (label : List Char) :
    Option (Target × Nat) :=
  let normal := normalizeLabel label
  match defined.find? (·.label = normal) with
  | some found =>
    if found.target.size ≤ room then some (found.target, room - found.target.size) else none
  | none => none

end Manuscript.Markdown
