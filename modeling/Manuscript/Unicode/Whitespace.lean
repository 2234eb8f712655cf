import Manuscript.Unicode.Ranges

/-! White space as Unicode defines it, and trimming by it. -/

namespace Manuscript.Unicode

/-- The characters with the `White_Space` property. -/
def whitespaceRanges : Ranges :=
  [(0x09, 0x0d), (0x20, 0x20), (0x85, 0x85), (0xa0, 0xa0), (0x1680, 0x1680), (0x2000, 0x200a),
   (0x2028, 0x2029), (0x202f, 0x202f), (0x205f, 0x205f), (0x3000, 0x3000)]

/-- White space of any script. -/
def isWhitespace (c : Char) : Bool :=
  whitespaceRanges.has c

/-- A text without the white space at its two ends. -/
def trimChars (text : List Char) : List Char :=
  ((text.dropWhile isWhitespace).reverse.dropWhile isWhitespace).reverse

/-- A string without the white space at its two ends. -/
def trim (text : String) : String :=
  String.ofList (trimChars text.toList)

end Manuscript.Unicode
