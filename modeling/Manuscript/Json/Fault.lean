/-! What can be wrong with a JSON text, and where. -/

namespace Manuscript.Json

/-- What is wrong with a text. -/
inductive Cause where
  | eofInList
  | eofInObject
  | eofInString
  | eofInValue
  | expectedColon
  | expectedListEnd
  | expectedObjectEnd
  | expectedIdent
  | expectedValue
  | invalidEscape
  | invalidNumber
  | numberOutOfRange
  | controlCharacter
  | keyNotString
  | loneSurrogate
  | unfinishedSurrogate
  | trailingComma
  | trailingCharacters
  | tooDeep
  /-- The text is sound, but something else was expected. -/
  | mismatch (found expected : String)
  /-- A field is missing. -/
  | missingField (name : String)
  /-- A field is given twice. -/
  | duplicateField (name : String)
  /-- A list that stands for a record is too short. -/
  | tooShort (found : Nat) (expected : String)
  deriving DecidableEq

/-- What is printed for a cause. -/
def Cause.message : Cause → String
  | .eofInList => "EOF while parsing a list"
  | .eofInObject => "EOF while parsing an object"
  | .eofInString => "EOF while parsing a string"
  | .eofInValue => "EOF while parsing a value"
  | .expectedColon => "expected `:`"
  | .expectedListEnd => "expected `,` or `]`"
  | .expectedObjectEnd => "expected `,` or `\x7d`"
  | .expectedIdent => "expected ident"
  | .expectedValue => "expected value"
  | .invalidEscape => "invalid escape"
  | .invalidNumber => "invalid number"
  | .numberOutOfRange => "number out of range"
  | .controlCharacter => "control character (\\u0000-\\u001F) found while parsing a string"
  | .keyNotString => "key must be a string"
  | .loneSurrogate => "lone leading surrogate in hex escape"
  | .unfinishedSurrogate => "unexpected end of hex escape"
  | .trailingComma => "trailing comma"
  | .trailingCharacters => "trailing characters"
  | .tooDeep => "recursion limit exceeded"
  | .mismatch found expected => "invalid type: " ++ found ++ ", expected " ++ expected
  | .missingField name => "missing field `" ++ name ++ "`"
  | .duplicateField name => "duplicate field `" ++ name ++ "`"
  | .tooShort found expected =>
    "invalid length " ++ toString found ++ ", expected " ++ expected

/-- A cause and the place where it was noticed. -/
structure Fault where
  /-- What is wrong. -/
  cause : Cause
  /-- The text that was not read yet. -/
  rest : List Char
  /-- How many bytes of it belong to the place as well. -/
  ahead : Nat
  deriving DecidableEq

namespace Fault

/-- A fault right behind what was read. -/
def here (cause : Cause) (rest : List Char) : Fault := ⟨cause, rest, 0⟩

/-- A fault at the next byte. -/
def next (cause : Cause) (rest : List Char) : Fault := ⟨cause, rest, 1⟩

/-- How many bytes a text takes. -/
def bytes (text : List Char) : Nat := text.foldr (fun c count => c.utf8Size + count) 0

/-- The line and the column behind the first bytes of a text; columns count bytes. -/
def placeAfter : Nat → Nat → Nat → List Char → Nat × Nat
  | line, column, _, [] => (line, column)
  | line, column, count, c :: rest =>
    if count = 0 then (line, column)
    -- A line feed belongs to the line that it ends.
    else if c = '\n' then placeAfter (line + 1) 0 (count - 1) rest
    else
      let size := min c.utf8Size count
      placeAfter line (column + size) (count - size) rest

/-- The line and the column of a fault in a text. -/
def place (fault : Fault) (text : List Char) : Nat × Nat :=
  placeAfter 1 0 (bytes text - bytes fault.rest + fault.ahead) text

/-- What is printed for a fault in a text. -/
def message (fault : Fault) (text : List Char) : String :=
  let place := fault.place text
  fault.cause.message ++ " at line " ++ toString place.1 ++ " column " ++ toString place.2

end Fault

end Manuscript.Json
