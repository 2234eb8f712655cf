import Manuscript.Config.Reader
import Manuscript.Text.Search

/-!
The scalars of TOML: strings, numbers, and dates. Each reader gives what it read and the rest.
-/

namespace Manuscript.Config.Toml

/-- A blank of a line. -/
def isBlank (c : Char) : Bool := c = ' ' || c = '\t'

/-- A text without blanks at its front. -/
def skipBlanks (text : List Char) : List Char := text.dropWhile isBlank

/-- A character that may stand in a string or a comment: no control character but the tab. -/
def isPlain (c : Char) : Bool := c = '\t' || (0x20 ≤ c.toNat && c.toNat ≠ 0x7f)

/-- The rest behind a line end. -/
def afterLineEnd? (text : List Char) : Option (List Char) :=
  match text with
  | '\n' :: rest => some rest
  | '\r' :: '\n' :: rest => some rest
  | _ => none

/-- Reads an escape behind its backslash. -/
def escape? : Reader Char
  | [] => none
  | c :: rest =>
    let named (count : Nat) : Option (Char × List Char) :=
      if rest.length < count then none
      else (namedChar? (rest.take count)).map fun found => (found, rest.drop count)
    if c = 'u' then named 4
    else if c = 'U' then named 8
    else
      let meant : Option Char :=
        match c with
        | 'b' => some '\x08'
        | 't' => some '\t'
        | 'n' => some '\n'
        | 'f' => some '\x0c'
        | 'r' => some '\r'
        | '"' => some '"'
        | '\\' => some '\\'
        | _ => none
      meant.map fun found => (found, rest)

/-- The rest of a string on one line, up to its quote; the bound limits its length. -/
def quotedTail : Nat → Reader (List Char)
  | 0, _ => none
  | _, [] => none
  | bound + 1, c :: rest =>
    if c = '"' then some ([], rest)
    else if c = '\\' then
      (escape? rest).bind fun (found, after) =>
        (quotedTail bound after).map fun (more, final) => (found :: more, final)
    else if isPlain c then (quotedTail bound rest).map fun (more, final) => (c :: more, final)
    else none

/-- The rest of a string without escapes on one line. -/
def literalTail : Reader (List Char)
  | [] => none
  | c :: rest =>
    if c = '\'' then some ([], rest)
    else if isPlain c then (literalTail rest).map fun (more, final) => (c :: more, final)
    else none

/-- A text without the blanks and line ends at its front. -/
def skipSpace : Nat → List Char → List Char
  | 0, text => text
  | bound + 1, text =>
    match afterLineEnd? (skipBlanks text) with
    | some rest => skipSpace bound rest
    | none => skipBlanks text

/-- The quotes that end a string of several lines: up to two more of them belong to it. -/
def closing? (quote : Char) (text : List Char) : Option (List Char × List Char) :=
  let count := (text.takeWhile (· = quote)).length
  -- Quotes in front of the closing three belong to the text.
  if 3 ≤ count then
    let own := min (count - 3) 2
    some (List.replicate own quote, text.drop (own + 3))
  else none

/-- The rest of a string of several lines. Escapes count in it when its quote is a double one. -/
def linesTail (quote : Char) : Nat → Reader (List Char)
  | 0, _ => none
  | bound + 1, text =>
    match closing? quote text with
    | some found => some found
    | none =>
      match text with
      | [] => none
      | c :: rest =>
        match afterLineEnd? text with
        -- A line end is a line feed in the text, however it is written.
        | some after => (linesTail quote bound after).map fun (more, final) => ('\n' :: more, final)
        | none =>
          if c = '\\' ∧ quote = '"' then
            -- A backslash at a line end drops all blanks up to the next text.
            match afterLineEnd? (skipBlanks rest) with
            | some after => linesTail quote bound (skipSpace after.length after)
            | none =>
              (escape? rest).bind fun (found, after) =>
                (linesTail quote bound after).map fun (more, final) => (found :: more, final)
          else if isPlain c then
            (linesTail quote bound rest).map fun (more, final) => (c :: more, final)
          else none

/-- Reads a string of several lines behind its opening quotes, of which a line end is no part. -/
def lines? (quote : Char) : Reader (List Char) := fun text =>
  let inside := (afterLineEnd? text).getD text
  linesTail quote (inside.length + 1) inside

/-- Reads a string on one line. -/
def lineString? : Reader (List Char)
  | '"' :: rest => quotedTail (rest.length + 1) rest
  | '\'' :: rest => literalTail rest
  | _ => none

/-- Reads any string. -/
def string? : Reader (List Char)
  -- Three quotes come first, as two of them are an empty string on one line.
  | '"' :: '"' :: '"' :: rest => lines? '"' rest
  | '\'' :: '\'' :: '\'' :: rest => lines? '\'' rest
  | text => lineString? text

/-- The digits that follow a digit, between which single underscores may stand. -/
def moreDigits (isDigit : Char → Bool) : List Char → List Char × List Char
  | [] => ([], [])
  | '_' :: d :: rest =>
    -- An underscore stands between two digits.
    if isDigit d then
      let (found, final) := moreDigits isDigit rest
      (d :: found, final)
    else ([], '_' :: d :: rest)
  | c :: rest =>
    if isDigit c then
      let (found, final) := moreDigits isDigit rest
      (c :: found, final)
    else ([], c :: rest)

/-- Reads digits, between which single underscores may stand. -/
def digits? (isDigit : Char → Bool) : Reader (List Char)
  | [] => none
  | c :: rest =>
    if isDigit c then
      let (found, final) := moreDigits isDigit rest
      some (c :: found, final)
    else none

/-- Reads decimal digits without a zero in front. -/
def whole? : Reader (List Char) := fun text =>
  match text with
  -- Nothing may follow a zero in front.
  | '0' :: rest => some (['0'], rest)
  | _ => digits? Char.isDigit text

/-- Reads an integer of 64 bits. -/
def integer? : Reader Int := fun text =>
  let inWord (n : Int) (rest : List Char) : Option (Int × List Char) :=
    if isWord n then some (n, rest) else none
  let based (base : Nat) (rest : List Char) : Option (Int × List Char) :=
    (digits? (isDigitIn base) rest).bind fun (found, final) =>
      inWord (inBase base found) final
  match text with
  -- Numbers in another base have no sign.
  | '0' :: 'x' :: rest => based 16 rest
  | '0' :: 'o' :: rest => based 8 rest
  | '0' :: 'b' :: rest => based 2 rest
  | _ =>
    let (isNegative, unsigned) := sign text
    (whole? unsigned).bind fun (found, final) =>
      inWord (if isNegative then -(inBase 10 found : Int) else inBase 10 found) final

/-- Reads the exponent of a number behind its letter. -/
def exponent? : Reader Int := fun text =>
  let (isNegative, unsigned) := sign text
  (digits? Char.isDigit unsigned).map fun (found, final) =>
    (if isNegative then -(inBase 10 found : Int) else inBase 10 found, final)

/-- Reads a number with a fraction or an exponent, or a special number. -/
def float? : Reader Floating := fun text =>
  let (isNegative, unsigned) := sign text
  let special (word : String) (number : Floating) : Option (Floating × List Char) :=
    (afterStart? word.toList unsigned).map fun rest => (number, rest)
  match (special "inf" (.infinite isNegative)).or (special "nan" .notANumber) with
  | some found => some found
  | none =>
    (whole? unsigned).bind fun (found, behind) =>
      let finish (part : List Char) (power : Int) (rest : List Char) :
          Option (Floating × List Char) :=
        let digits := inBase 10 (found ++ part)
        let number := Floating.ofDecimal isNegative digits (power - part.length)
        -- What is too large is refused, but only when it has no minus sign.
        if number = .infinite false then none else some (number, rest)
      let withExponent (part rest : List Char) (needed : Bool) : Option (Floating × List Char) :=
        match rest with
        | c :: more =>
          if c = 'e' ∨ c = 'E' then
            (exponent? more).bind fun (power, final) => finish part power final
          -- With neither a fraction nor an exponent it is an integer.
          else if needed then none
          else finish part 0 rest
        | [] => if needed then none else finish part 0 rest
      match behind with
      | '.' :: rest =>
        (digits? Char.isDigit rest).bind fun (part, after) => withExponent part after false
      | _ => withExponent [] behind true

/-- Reads a number of digits as a number within bounds. -/
def field? (count low high : Nat) : Reader Nat := fun text =>
  let found := text.take count
  if found.length = count ∧ found.all Char.isDigit ∧ low ≤ inBase 10 found ∧ inBase 10 found ≤ high
  then some (inBase 10 found, text.drop count)
  else none

/-- A number in a number of digits. -/
def padded (count n : Nat) : List Char :=
  let digits := (toString n).toList
  List.replicate (count - digits.length) '0' ++ digits

/-- How many days a month has. -/
def daysIn (year month : Nat) : Nat :=
  if month = 2 then
    if year % 4 = 0 ∧ (year % 100 ≠ 0 ∨ year % 400 = 0) then 29 else 28
  else if month = 4 ∨ month = 6 ∨ month = 9 ∨ month = 11 then 30
  else 31

/-- Reads a date; what is given is how it is written. -/
def date? : Reader (List Char) := fun text => do
  let (year, text) ← field? 4 0 9999 text
  let text ← afterStart? ['-'] text
  let (month, text) ← field? 2 1 12 text
  let text ← afterStart? ['-'] text
  let (day, text) ← field? 2 1 (daysIn year month) text
  return (padded 4 year ++ '-' :: padded 2 month ++ '-' :: padded 2 day, text)

/-- Reads a time of a day. -/
def time? : Reader (List Char) := fun text => do
  let (hour, text) ← field? 2 0 23 text
  let text ← afterStart? [':'] text
  let (minute, text) ← field? 2 0 59 text
  let text ← afterStart? [':'] text
  -- A leap second may be written.
  let (second, text) ← field? 2 0 60 text
  let written := padded 2 hour ++ ':' :: padded 2 minute ++ ':' :: padded 2 second
  match text with
  | '.' :: rest =>
    let places := rest.takeWhile Char.isDigit
    if places.isEmpty then none
    else
      -- Fractions go as far as nanoseconds, and zeros at their end are not written.
      let kept := ((places.take 9).reverse.dropWhile (· = '0')).reverse
      let fraction := if kept.isEmpty then [] else '.' :: kept
      return (written ++ fraction, rest.drop places.length)
  | _ => return (written, text)

/-- Reads the offset of a time, which may be missing. -/
def offset (text : List Char) : List Char × List Char :=
  match text with
  | [] => ([], [])
  | c :: rest =>
    if c = 'Z' ∨ c = 'z' then (['Z'], rest)
    else if c = '+' ∨ c = '-' then
      let found := do
        let (hours, rest) ← field? 2 0 23 rest
        let rest ← afterStart? [':'] rest
        let (minutes, rest) ← field? 2 0 59 rest
        -- No offset is one to the east.
        let mark := if hours = 0 ∧ minutes = 0 then '+' else c
        return (mark :: padded 2 hours ++ ':' :: padded 2 minutes, rest)
      found.getD ([], text)
    else ([], text)

/-- Reads a date, a time, or both; what is given is how it is written. -/
def moment? : Reader (List Char) := fun text =>
  match date? text with
  -- A time without a date has no offset.
  | none => time? text
  | some (date, behind) =>
    let both :=
      match behind with
      | c :: rest =>
        if c = 'T' ∨ c = 't' ∨ c = ' ' then
          (time? rest).map fun (time, after) =>
            let (zone, final) := offset after
            (date ++ 'T' :: time ++ zone, final)
        else none
      | [] => none
    -- Without a time behind it the date stands alone, and what follows is left.
    some (both.getD (date, behind))

end Manuscript.Config.Toml
