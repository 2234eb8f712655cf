import Manuscript.Unicode.Punctuation

/-! Classes of ASCII characters that markdown tells apart, and trimming by them. -/

namespace Manuscript.Markdown

/-- White space in running text: spaces, tabs and line ends. -/
def isSpace (c : Char) : Bool := c = ' ' || c = '\t' || c = '\n' || c = '\r'

/-- White space between the parts of a tag or of a link target, feeds included. -/
def isGap (c : Char) : Bool := isSpace c || c = '\x0b' || c = '\x0c'

/-- A space or a tab. -/
def isBlank (c : Char) : Bool := c = ' ' || c = '\t'

/-- Punctuation of ASCII. -/
abbrev isPunct (c : Char) : Bool := Unicode.isAsciiPunctuation c

/-- A text without white space at its end. -/
def trimRight (text : List Char) : List Char := (text.reverse.dropWhile isSpace).reverse

/-- A text without white space at its front. -/
def trimLeft (text : List Char) : List Char := text.dropWhile isSpace

/-- A text without the gap at its front. -/
def skipGap (text : List Char) : List Char := text.dropWhile isGap

/-- A text without white space at its ends. -/
def trim (text : List Char) : List Char := trimRight (trimLeft text)

/-- A text without spaces and tabs at its front. -/
def dropBlanks (text : List Char) : List Char := text.dropWhile isBlank

/--
A text in which every backslash in front of punctuation is dropped, be it escaped itself or not.
-/
def unescapeBackslashes : List Char → List Char
  | [] => []
  | c :: rest =>
    if c = '\\' ∧ rest.head?.any isPunct then unescapeBackslashes rest
    else c :: unescapeBackslashes rest

/-- A line end at the front is skipped; the end of the text counts as one. -/
def afterLineEnd? : List Char → Option (List Char)
  | [] => some []
  | '\r' :: '\n' :: rest => some rest
  | '\r' :: rest => some rest
  | '\n' :: rest => some rest
  | _ => none

/-- Blanks, at most one line end, and blanks again are skipped. -/
def skipSpacing (text : List Char) : List Char :=
  match afterLineEnd? (dropBlanks text) with
  | some rest => dropBlanks rest
  | none => dropBlanks text

/-- A start that may differ in the case of ASCII letters. -/
def startsFolded (start text : List Char) : Bool :=
  (text.take start.length).map Char.toLower = start

end Manuscript.Markdown
