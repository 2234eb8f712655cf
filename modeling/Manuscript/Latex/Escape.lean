/-! Escaping of the characters that LaTeX reserves. -/

namespace Manuscript

/-- What is written for a reserved character. -/
def reservedForm? (c : Char) : Option (List Char) :=
  match c with
  | '\\' => some "\\textbackslash\x7b\x7d".toList
  | '\x7b' => some ['\\', '\x7b']
  | '\x7d' => some ['\\', '\x7d']
  | '$' => some ['\\', '$']
  | '&' => some ['\\', '&']
  | '%' => some ['\\', '%']
  | '#' => some ['\\', '#']
  | '^' => some "\\textasciicircum\x7b\x7d".toList
  | '_' => some ['\\', '_']
  | '~' => some "\\textasciitilde\x7b\x7d".toList
  | _ => none

/-- A character as it is written in running text. -/
def escapeChar (c : Char) : List Char :=
  (reservedForm? c).getD [c]

/-- A text in which every reserved character is written in its escaped form. -/
def escapeChars (text : List Char) : List Char :=
  text.flatMap escapeChar

/-- A string in which every reserved character is written in its escaped form. -/
def escapeText (text : String) : String :=
  String.ofList (escapeChars text.toList)

end Manuscript
