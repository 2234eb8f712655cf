import Manuscript.Json.Value

/-!
JSON texts as they may be written. A form is a text without its blanks: it says how each character
of a string and each number is written and in which order members stand. Blanks may stand in front
of any lexeme. Forms and values are related by what the texts mean.
-/

namespace Manuscript.Json

/-- A blank. -/
inductive Blank where
  | space
  | lineFeed
  | carriageReturn
  | tab

/-- A blank as a character. -/
def Blank.char : Blank → Char
  | .space => ' '
  | .lineFeed => '\n'
  | .carriageReturn => '\r'
  | .tab => '\t'

/-- Blanks one after another. -/
def gapText (gap : List Blank) : List Char := gap.map Blank.char

/-- The text of lexemes with blanks in front of each of them. -/
def spaced : (Nat → List Blank) → List (List Char) → List Char
  | _, [] => []
  | gaps, lexeme :: rest => gapText (gaps 0) ++ lexeme ++ spaced (fun i => gaps (i + 1)) rest

/-- A character that has an escape of one letter. -/
inductive Escape where
  | quote
  | backslash
  | slash
  | backspace
  | formFeed
  | lineFeed
  | carriageReturn
  | tab

namespace Escape

/-- The letter behind the backslash. -/
def letter : Escape → Char
  | .quote => '"'
  | .backslash => '\\'
  | .slash => '/'
  | .backspace => 'b'
  | .formFeed => 'f'
  | .lineFeed => 'n'
  | .carriageReturn => 'r'
  | .tab => 't'

/-- The character that is meant. -/
def char : Escape → Char
  | .quote => '"'
  | .backslash => '\\'
  | .slash => '/'
  | .backspace => '\x08'
  | .formFeed => '\x0c'
  | .lineFeed => '\n'
  | .carriageReturn => '\r'
  | .tab => '\t'

end Escape

/-- A hexadecimal digit; its letters have two cases. -/
def hexDigit (isUpper : Bool) (value : Nat) : Char :=
  if isUpper then value.digitChar.toUpper else value.digitChar

/-- The digits of a code unit; it says for each of them which case it has. -/
def unitDigits (isUpper : Nat → Bool) (unit : Nat) : List Char :=
  [hexDigit (isUpper 0) (unit / 0x1000 % 0x10), hexDigit (isUpper 1) (unit / 0x100 % 0x10),
    hexDigit (isUpper 2) (unit / 0x10 % 0x10), hexDigit (isUpper 3) (unit % 0x10)]

/-- A code unit as a numeric escape. -/
def unitText (isUpper : Nat → Bool) (unit : Nat) : List Char :=
  '\\' :: 'u' :: unitDigits isUpper unit

/-- A character of a string as it is written. -/
inductive CharForm where
  /-- By itself, which only some are not. -/
  | plain (c : Char) (allowed : 0x20 ≤ c.toNat ∧ c ≠ '"' ∧ c ≠ '\\')
  /-- By an escape of one letter. -/
  | short (escape : Escape)
  /-- By the numbers of its code units, of which it has one or two. -/
  | coded (c : Char) (isUpper : Nat → Bool)
  /-- The number of a code unit that is only a half of a character. -/
  | half (unit : Nat) (isHalf : 0xd800 ≤ unit ∧ unit ≤ 0xdfff) (isUpper : Nat → Bool)

namespace CharForm

/-- The text of a character. -/
def text : CharForm → List Char
  | .plain c _ => [c]
  | .short escape => ['\\', escape.letter]
  | .coded c isUpper =>
    if c.toNat < 0x10000 then unitText isUpper c.toNat
    else
      -- The number above the first plane is cut into two halves of ten bits each.
      unitText isUpper (0xd800 + (c.toNat - 0x10000) / 0x400) ++
        unitText (fun i => isUpper (i + 4)) (0xdc00 + (c.toNat - 0x10000) % 0x400)
  | .half unit _ isUpper => unitText isUpper unit

/-- The character that is written, if it is a whole one. -/
def char? : CharForm → Option Char
  | .plain c _ => some c
  | .short escape => some escape.char
  | .coded c _ => some c
  | .half _ _ _ => none

end CharForm

/-- A string as it is written. -/
abbrev StringForm := List CharForm

namespace StringForm

/-- The text between the quotes. -/
def inside (form : StringForm) : List Char := form.flatMap CharForm.text

/-- The text of a string. -/
def text (form : StringForm) : List Char := '"' :: (form.inside ++ ['"'])

/-- The string that is written; a text with half a character in it stands for none. -/
def Means (form : StringForm) (s : String) : Prop :=
  List.map CharForm.char? form = s.toList.map some

instance (form : StringForm) (s : String) : Decidable (form.Means s) :=
  inferInstanceAs (Decidable (_ = _))

end StringForm

/-- At least one digit. -/
structure Digits where
  /-- The first one. -/
  first : Fin 10
  /-- The others. -/
  rest : List (Fin 10) := []

/-- The text of digits. -/
def Digits.text (digits : Digits) : List Char :=
  (digits.first :: digits.rest).map fun digit => digit.val.digitChar

/-- An exponent as it is written. -/
structure ExponentForm where
  /-- Its letter is a large one. -/
  isUpper : Bool
  /-- Its sign, which may be left out. -/
  isNegative? : Option Bool
  /-- Its digits. -/
  digits : Digits

/-- The text of an exponent. -/
def ExponentForm.text (exponent : ExponentForm) : List Char :=
  (if exponent.isUpper then 'E' else 'e') ::
    ((exponent.isNegative?.elim [] fun isNegative => [if isNegative then '-' else '+']) ++
      exponent.digits.text)

/-- A number as it is written. -/
structure NumberForm where
  /-- It has a sign. -/
  isNegative : Bool := false
  /-- The number in front of the point; it is written without zeros in front. -/
  whole : Nat
  /-- The digits behind the point. -/
  fraction? : Option Digits := none
  /-- The exponent. -/
  exponent? : Option ExponentForm := none

namespace NumberForm

/-- The text behind the sign and the number in front of the point. -/
def tail (form : NumberForm) : List Char :=
  (form.fraction?.elim [] fun digits => '.' :: digits.text) ++
    form.exponent?.elim [] ExponentForm.text

/-- The text of a number. -/
def text (form : NumberForm) : List Char :=
  (if form.isNegative then ['-'] else []) ++ Nat.toDigits 10 form.whole ++ form.tail

/-- The number that is written, if it is an integer of 64 bits: these are written as numerals. -/
def Spells (form : NumberForm) : Number → Prop
  | .natural n => form = { whole := n } ∧ n < 0x10000000000000000
  | .negative size =>
    form = { isNegative := true, whole := size } ∧ 0 < size ∧ size ≤ 0x8000000000000000
  | .float _ _ => False

end NumberForm

/-- A text without its blanks. -/
inductive Form where
  | null
  | bool (b : Bool)
  | number (form : NumberForm)
  | string (form : StringForm)
  | array (items : List Form)
  | object (members : List (StringForm × Form))

namespace Form

mutual

/-- The lexemes of a form. -/
def lexemes : Form → List (List Char)
  | .null => ["null".toList]
  | .bool true => ["true".toList]
  | .bool false => ["false".toList]
  | .number form => [form.text]
  | .string form => [form.text]
  | .array items => ['['] :: itemLexemes true items
  | .object members => ['\x7b'] :: memberLexemes true members

/-- The lexemes of items up to the end of their list; all but the first stand behind a comma. -/
def itemLexemes : Bool → List Form → List (List Char)
  | _, [] => [[']']]
  | first, item :: rest =>
    (if first then [] else [[',']]) ++ item.lexemes ++ itemLexemes false rest

/-- The lexemes of members up to the end of their object. -/
def memberLexemes : Bool → List (StringForm × Form) → List (List Char)
  | _, [] => [['\x7d']]
  | first, (key, value) :: rest =>
    (if first then [] else [[',']]) ++ [key.text, [':']] ++ value.lexemes ++
      memberLexemes false rest

end

mutual

/-- How deeply lists and objects are nested. -/
def nesting : Form → Nat
  | .array items => itemNesting items + 1
  | .object members => memberNesting members + 1
  | .null | .bool _ | .number _ | .string _ => 0

/-- How deeply they are nested in some items. -/
def itemNesting : List Form → Nat
  | [] => 0
  | item :: rest => max item.nesting (itemNesting rest)

/-- How deeply they are nested in some members. -/
def memberNesting : List (StringForm × Form) → Nat
  | [] => 0
  | (_, value) :: rest => max value.nesting (memberNesting rest)

end

mutual

/-- A form is a text of a value. -/
def Spells : Form → Value → Prop
  | .null, value => value = .null
  | .bool b, value => value = .bool b
  | .number form, value => ∃ n, value = .number n ∧ form.Spells n
  | .string form, value => ∃ s, value = .string s ∧ form.Means s
  | .array items, value => ∃ values, value = .array values ∧ SpellItems items values
  | .object members, value =>
    -- The members of an object may be written in any order, each key once.
    ∃ sorted written, value = .object sorted ∧ (sorted.Pairwise fun a b => a.1 < b.1) ∧
      written.Perm sorted ∧ SpellMembers members written

/-- Forms are texts of values, one of each. -/
def SpellItems : List Form → List Value → Prop
  | [], values => values = []
  | item :: rest, values =>
    ∃ value others, values = value :: others ∧ item.Spells value ∧ SpellItems rest others

/-- Members are texts of members, one of each. -/
def SpellMembers : List (StringForm × Form) → List (String × Value) → Prop
  | [], written => written = []
  | (key, form) :: rest, written =>
    ∃ name value others, written = (name, value) :: others ∧ key.Means name ∧ form.Spells value ∧
      SpellMembers rest others

end

end Form

end Manuscript.Json
