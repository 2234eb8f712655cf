import Manuscript.Json.Fault
import Manuscript.Json.Value

/-! The lexical parts of JSON: blanks, words, strings and numbers. Each reader moves forward. -/

namespace Manuscript.Json

/-- A value that was read from the front of a text, and what is left, which is less. -/
structure Read (α : Type) (text : List Char) where
  /-- What was read. -/
  value : α
  /-- What is left. -/
  rest : List Char
  /-- Something was read. -/
  shorter : rest.length < text.length

/-- What was read of a text, as read of the text with one more character in front. -/
def Read.behind {α : Type} {c : Char} {text : List Char} (read : Read α text) :
    Read α (c :: text) :=
  ⟨read.value, read.rest, Nat.lt_succ_of_lt read.shorter⟩

/-- Reads from the front of a text. -/
abbrev Reader (α : Type) := (text : List Char) → Except Fault (Read α text)

/-- The blanks of JSON. -/
def isBlank (c : Char) : Bool := c = ' ' || c = '\n' || c = '\t' || c = '\r'

/-- A text without the blanks at its front. -/
def skipBlanks (text : List Char) : List Char := text.dropWhile isBlank

/-- Skipping blanks adds nothing. -/
theorem skipBlanks_length_le (text : List Char) : (skipBlanks text).length ≤ text.length :=
  (List.dropWhile_sublist isBlank).length_le

/-- Reads the characters of a word, each of which has to be next. -/
def readWord : List Char → List Char → Except Fault (List Char)
  | [], text => .ok text
  | _ :: _, [] => .error (.here .eofInValue [])
  | w :: word, c :: rest =>
    if c = w then readWord word rest else .error (.next .expectedIdent (c :: rest))

/-- The value of a hexadecimal digit. -/
def hexValue? (c : Char) : Option Nat :=
  if c.isDigit then some (c.toNat - '0'.toNat)
  else if 'a' ≤ c ∧ c ≤ 'f' then some (c.toNat - 'a'.toNat + 10)
  else if 'A' ≤ c ∧ c ≤ 'F' then some (c.toNat - 'A'.toNat + 10)
  else none

/-- Reads the four digits of an escape. -/
def readHex (text : List Char) : Except Fault (Nat × List Char) :=
  match text with
  | a :: b :: c :: d :: rest =>
    match hexValue? a, hexValue? b, hexValue? c, hexValue? d with
    | some a, some b, some c, some d => .ok (((a * 16 + b) * 16 + c) * 16 + d, rest)
    | _, _, _, _ => .error ⟨.invalidEscape, text, 4⟩
  | _ =>
    -- Too few bytes are the end of the text; enough of them are four digits that are none.
    if Fault.bytes text < 4 then .error (.here .eofInString [])
    else .error ⟨.invalidEscape, text, 4⟩

/-- A code unit that opens a surrogate pair. -/
def isHighSurrogate (n : Nat) : Bool := 0xd800 ≤ n && n ≤ 0xdbff

/-- A code unit that closes a surrogate pair. -/
def isLowSurrogate (n : Nat) : Bool := 0xdc00 ≤ n && n ≤ 0xdfff

/-- Reads the second half of a surrogate pair. -/
def readLowHalf (high : Nat) (text : List Char) : Except Fault (Char × List Char) :=
  match text with
  | [] => .error (.here .eofInString [])
  | '\\' :: [] => .error (.here .eofInString [])
  | '\\' :: 'u' :: rest => do
    let (low, after) ← readHex rest
    if isLowSurrogate low then
      -- Each half carries ten bits of what lies beyond the characters of one unit.
      return (Char.ofNat (0x10000 + (high - 0xd800) * 0x400 + (low - 0xdc00)), after)
    else .error (.here .loneSurrogate after)
  | '\\' :: rest => .error (.next .unfinishedSurrogate rest)
  | rest => .error (.next .unfinishedSurrogate rest)

/-- Reads what follows the letter of a numeric escape. -/
def readUnicodeEscape (text : List Char) : Except Fault (Char × List Char) := do
  let (unit, rest) ← readHex text
  -- A closing half with no opening one in front of it stands for nothing.
  if isLowSurrogate unit then .error (.here .loneSurrogate rest)
  else if isHighSurrogate unit then readLowHalf unit rest
  else return (Char.ofNat unit, rest)

/-- The character of an escape of one letter. -/
def simpleEscape? (c : Char) : Option Char :=
  match c with
  | '"' => some '"'
  | '\\' => some '\\'
  | '/' => some '/'
  | 'b' => some '\x08'
  | 'f' => some '\x0c'
  | 'n' => some '\n'
  | 'r' => some '\r'
  | 't' => some '\t'
  | _ => none

/-- Reads what follows the backslash of an escape. -/
def readEscape (text : List Char) : Except Fault (Char × List Char) :=
  match text with
  | [] => .error (.here .eofInString [])
  | 'u' :: rest => readUnicodeEscape rest
  | c :: rest =>
    match simpleEscape? c with
    | some meant => .ok (meant, rest)
    | none => .error (.next .invalidEscape text)

/-- Four digits are taken off the front. -/
theorem readHex_shorter {text rest : List Char} {n : Nat} (read : readHex text = .ok (n, rest)) :
    rest.length < text.length := by
  -- Something is read only when all four are digits.
  unfold readHex at read
  split at read
  · split at read
    · simp only [Except.ok.injEq, Prod.mk.injEq] at read
      rw [← read.2]
      simp only [List.length_cons]
      omega
    · simp at read
  · split at read <;> simp at read

/-- An escape is taken off the front. -/
theorem readEscape_shorter {text rest : List Char} {c : Char}
    (read : readEscape text = .ok (c, rest)) : rest.length < text.length := by
  -- Numeric escapes take their digits, and pairs take them twice.
  unfold readEscape at read
  split at read
  · simp at read
  · rename_i tail
    simp only [readUnicodeEscape, Bind.bind, Except.bind, Pure.pure, Except.pure] at read
    cases first : readHex tail with
    | error fault => simp [first] at read
    | ok pair =>
      rcases pair with ⟨unit, after⟩
      have moved := readHex_shorter first
      simp only [first] at read
      split at read
      -- A closing half alone is refused.
      · simp at read
      split at read
      -- An opening half takes the digits of its second half as well.
      · unfold readLowHalf at read
        split at read
        · simp at read
        · simp at read
        · rename_i second
          simp only [Bind.bind, Except.bind, Pure.pure, Except.pure] at read
          cases low : readHex second with
          | error fault => simp [low] at read
          | ok pair =>
            rcases pair with ⟨unit, final⟩
            have again := readHex_shorter low
            simp only [low] at read
            split at read
            · simp only [Except.ok.injEq, Prod.mk.injEq] at read
              simp only [List.length_cons] at moved ⊢
              rw [← read.2]
              omega
            · simp at read
        · simp at read
        · simp at read
      · simp only [Except.ok.injEq, Prod.mk.injEq] at read
        simp only [List.length_cons]
        rw [← read.2]
        omega
  -- All other escapes are one letter.
  · split at read
    · simp only [Except.ok.injEq, Prod.mk.injEq] at read
      rw [← read.2]
      simp
    · simp at read

/-- Reads the characters of a string up to the closing quote. -/
def readStringTail (text : List Char) : Except Fault (List Char × List Char) :=
  match text with
  | [] => .error (.here .eofInString [])
  | '"' :: rest => .ok ([], rest)
  | '\\' :: rest =>
    match _escape : readEscape rest with
    | .error fault => .error fault
    | .ok (c, after) => do
      let (chars, final) ← readStringTail after
      return (c :: chars, final)
  | c :: rest =>
    -- Control characters have to be escaped.
    if c.toNat < 0x20 then .error (.next .controlCharacter text)
    else do
      let (chars, final) ← readStringTail rest
      return (c :: chars, final)
termination_by text.length
decreasing_by
  · have := readEscape_shorter _escape
    simp only [List.length_cons]
    omega
  · simp

/-- A string is taken off the front. -/
theorem readStringTail_shorter {text chars rest : List Char}
    (read : readStringTail text = .ok (chars, rest)) : rest.length < text.length := by
  fun_induction readStringTail text generalizing chars rest with
  | case1 => simp at read
  | case2 tail =>
    simp only [Except.ok.injEq, Prod.mk.injEq] at read
    simp [← read.2]
  | case3 => simp at read
  -- What the recursion takes off comes behind what was taken off here.
  | case4 tail c after escape ih =>
    have moved := readEscape_shorter escape
    cases inner : readStringTail after with
    | error fault => simp [inner, Bind.bind, Except.bind] at read
    | ok pair =>
      rcases pair with ⟨more, final⟩
      have := ih inner
      simp only [inner, Bind.bind, Except.bind, Pure.pure, Except.pure, Except.ok.injEq,
        Prod.mk.injEq] at read
      simp only [List.length_cons]
      rw [← read.2]
      omega
  | case5 => simp at read
  | case6 c tail _ _ _ ih =>
    cases inner : readStringTail tail with
    | error fault => simp [inner, Bind.bind, Except.bind] at read
    | ok pair =>
      rcases pair with ⟨more, final⟩
      have := ih inner
      simp only [inner, Bind.bind, Except.bind, Pure.pure, Except.pure, Except.ok.injEq,
        Prod.mk.injEq] at read
      simp only [List.length_cons]
      rw [← read.2]
      omega

/-- Passes over a string up to the closing quote; numeric escapes need no meaning here. -/
def skipStringTail (text : List Char) : Except Fault (List Char) :=
  match text with
  | [] => .error (.here .eofInString [])
  | '"' :: rest => .ok rest
  -- Halves of pairs are not put together, so that each passes by itself.
  | '\\' :: 'u' :: rest =>
    match _hex : readHex rest with
    | .error fault => .error fault
    | .ok (_, after) => skipStringTail after
  | '\\' :: [] => .error (.here .eofInString [])
  | '\\' :: c :: rest =>
    if (simpleEscape? c).isSome then skipStringTail rest
    else .error (.next .invalidEscape (c :: rest))
  | c :: rest =>
    -- The character does not count for the place here, as it does where the string is kept.
    if c.toNat < 0x20 then .error (.here .controlCharacter text) else skipStringTail rest
termination_by text.length
decreasing_by
  · have := readHex_shorter _hex
    simp only [List.length_cons]
    omega
  · simp only [List.length_cons]
    omega
  · simp

/-- The greatest number of 64 bits. -/
def greatestNatural : Nat := 0xffffffffffffffff

/-- Digits pushed onto a number as long as 64 bits hold it: the number, how many, and the rest. -/
def pushDigits (n : Nat) : List Char → Nat × Nat × List Char
  | [] => (n, 0, [])
  | c :: rest =>
    let pushed := n * 10 + (c.toNat - '0'.toNat)
    -- The first digit that does not fit is left for the caller, who only counts it.
    if c.isDigit && pushed ≤ greatestNatural then
      let more := pushDigits pushed rest
      (more.1, more.2.1 + 1, more.2.2)
    else (n, 0, c :: rest)

/-- A text without the digits at its front. -/
def skipDigits (text : List Char) : List Char := text.dropWhile Char.isDigit

/-- The largest exponent that is counted. -/
def greatestExponent : Nat := 0x7fffffff

/-- Digits of an exponent: its size, none behind the digit that makes it too large, and the rest. -/
def readExponentDigits (n : Nat) : List Char → Option Nat × List Char
  | [] => (some n, [])
  | c :: rest =>
    if c.isDigit then
      let pushed := n * 10 + (c.toNat - '0'.toNat)
      -- From here on the exponent is infinite, or zero, for every significand.
      if greatestExponent < pushed then (none, rest) else readExponentDigits pushed rest
    else (some n, c :: rest)

/-- Divides by the largest power of ten until the exponent fits a single power. -/
def scaleDown : Nat → Double → Nat → Double
  | 0, x, _ => x
  | steps + 1, x, down =>
    -- Powers of ten beyond this one are no numbers, so that division takes several steps.
    if down ≤ 308 then (x.div? (.powerOfTen down)).getD .zero
    else if x.mantissa = 0 then x
    else scaleDown steps ((x.div? (.powerOfTen 308)).getD .zero) (down - 308)

/-- A number with a decimal exponent, as a product or quotient of rounded numbers. -/
def floatOf? (significand : Nat) (exponent : Int) : Option Double :=
  let x := Double.ofNat significand
  if 0 ≤ exponent then
    -- Powers of ten up to here are numbers themselves.
    if exponent ≤ 308 then x.mul? (.powerOfTen exponent.toNat)
    -- Beyond that only zero is in range.
    else if significand = 0 then some .zero
    else none
  else some (scaleDown ((-exponent).toNat / 308 + 1) x (-exponent).toNat)

/-- A float with its sign, when it is in range. -/
def readFloat (isNegative : Bool) (significand : Nat) (exponent : Int) (rest : List Char) :
    Except Fault (Number × List Char) :=
  match floatOf? significand exponent with
  | some x => .ok (.float isNegative x, rest)
  | none => .error (.here .numberOutOfRange rest)

/-- Reads the size of an exponent, of which it is known whether it counts down. -/
def readExponentSize (isNegative : Bool) (significand : Nat) (base : Int) (down : Bool)
    (text : List Char) : Except Fault (Number × List Char) :=
  match text with
  | [] => .error (.here .eofInValue [])
  | c :: tail =>
    if c.isDigit then
      match readExponentDigits 0 (c :: tail) with
      | (some size, rest) =>
        readFloat isNegative significand (if down then base - size else base + size) rest
      | (none, rest) =>
        -- Zero stays zero, and anything scaled down that far is zero.
        if significand ≠ 0 ∧ !down then .error (.here .numberOutOfRange rest)
        else .ok (.float isNegative .zero, skipDigits rest)
    else .error (.next .invalidNumber (c :: tail))

/-- Reads what follows the letter of an exponent. -/
def readExponent (isNegative : Bool) (significand : Nat) (base : Int) (text : List Char) :
    Except Fault (Number × List Char) :=
  match text with
  | '+' :: rest => readExponentSize isNegative significand base false rest
  | '-' :: rest => readExponentSize isNegative significand base true rest
  | _ => readExponentSize isNegative significand base false text

/-- Reads an exponent when one follows. -/
def readOptionalExponent (isNegative : Bool) (significand : Nat) (base : Int)
    (text : List Char) : Except Fault (Number × List Char) :=
  match text with
  | 'e' :: rest | 'E' :: rest => readExponent isNegative significand base rest
  | _ => readFloat isNegative significand base text

/-- Reads what follows the point of a number. -/
def readFraction (isNegative : Bool) (significand : Nat) (base : Int) (text : List Char) :
    Except Fault (Number × List Char) :=
  match pushDigits significand text with
  | (_, 0, []) => .error (.here .eofInValue [])
  | (pushed, 0, c :: rest) =>
    -- Digits that do not fit any more do not change the number.
    if c.isDigit then readOptionalExponent isNegative pushed base (skipDigits rest)
    else .error (.next .invalidNumber (c :: rest))
  | (pushed, count, rest) =>
    readOptionalExponent isNegative pushed (base - count) (skipDigits rest)

/-- The integer of a sign and a size that 64 bits hold. -/
def integerOf (isNegative : Bool) (n : Nat) : Number :=
  if !isNegative then .natural n
  -- A negative zero keeps its sign as a float, and so does what 64 bits do not hold.
  else if n = 0 ∨ 0x8000000000000000 < n then .float true (.ofNat n)
  else .negative n

/-- Reads what follows the integer part, of which a number of digits were too many to keep. -/
def readNumberTail (isNegative : Bool) (n dropped : Nat) (text : List Char) :
    Except Fault (Number × List Char) :=
  match text with
  -- Each digit that was not kept counts as one power of ten.
  | '.' :: rest => readFraction isNegative n dropped rest
  | 'e' :: rest | 'E' :: rest => readExponent isNegative n dropped rest
  | _ =>
    if dropped = 0 then .ok (integerOf isNegative n, text) else readFloat isNegative n dropped text

/-- Reads a number behind its sign. -/
def readNumber (isNegative : Bool) (text : List Char) : Except Fault (Number × List Char) :=
  match text with
  | [] => .error (.here .eofInValue [])
  | c :: tail =>
    if !c.isDigit then .error (.next .invalidNumber text)
    -- A number has no zeros in front.
    else if c = '0' ∧ tail.head?.any Char.isDigit then .error (.next .invalidNumber tail)
    else
      match pushDigits 0 text with
      | (n, _, digits) =>
        readNumberTail isNegative n (digits.takeWhile Char.isDigit).length (skipDigits digits)

/-- Passes over the digits of an exponent, of which there has to be one. -/
def skipExponentDigits (text : List Char) : Except Fault (List Char) :=
  match text with
  -- Where reading misses the rest of a value, passing over sees a wrong number.
  | [] => .error (.here .invalidNumber [])
  | c :: _ => if c.isDigit then .ok (skipDigits text) else .error (.next .invalidNumber text)

/-- Passes over what follows the letter of an exponent. -/
def skipExponent (text : List Char) : Except Fault (List Char) :=
  match text with
  | '+' :: rest | '-' :: rest => skipExponentDigits rest
  | _ => skipExponentDigits text

/-- Passes over an exponent when one follows. -/
def skipOptionalExponent (text : List Char) : Except Fault (List Char) :=
  match text with
  | 'e' :: rest | 'E' :: rest => skipExponent rest
  | _ => .ok text

/-- Passes over what follows the point of a number. -/
def skipFraction (text : List Char) : Except Fault (List Char) :=
  if text.head?.any Char.isDigit then skipOptionalExponent (skipDigits text)
  else .error (.next .invalidNumber text)

/-- Passes over a number behind its sign. -/
def skipNumber (text : List Char) : Except Fault (List Char) :=
  match text with
  -- The end of the text is a wrong number here as well.
  | [] => .error (.here .invalidNumber [])
  | c :: tail =>
    if !c.isDigit then .error (.next .invalidNumber text)
    else if c = '0' ∧ tail.head?.any Char.isDigit then .error (.next .invalidNumber tail)
    else
      match skipDigits text with
      | '.' :: fraction => skipFraction fraction
      | rest => skipOptionalExponent rest

end Manuscript.Json
