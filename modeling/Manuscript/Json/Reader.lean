import Manuscript.Json.Skip
import Manuscript.Text.Quoted

/-! Readers of JSON values, and the readers of lists and objects that other readers are made of. -/

namespace Manuscript.Json

/-- Pushing digits adds nothing. -/
theorem pushDigits_length_le (n : Nat) (text : List Char) :
    (pushDigits n text).2.2.length ≤ text.length := by
  -- A digit that does not fit stays where it is.
  induction text generalizing n with
  | nil => simp [pushDigits]
  | cons c rest ih =>
    simp only [pushDigits]
    split
    · have := ih (n * 10 + (c.toNat - '0'.toNat))
      simp only [List.length_cons]
      omega
    · simp

/-- A float is read without touching the text. -/
theorem readFloat_rest {isNegative : Bool} {n : Nat} {e : Int} {text rest : List Char}
    {number : Number} (read : readFloat isNegative n e text = .ok (number, rest)) :
    rest = text := by
  unfold readFloat at read
  split at read
  · simp only [Except.ok.injEq, Prod.mk.injEq] at read
    exact read.2.symm
  · simp at read

/-- The digits of an exponent are taken off the front, also when there are too many. -/
theorem readExponentDigits_length_le (n : Nat) (text : List Char) :
    (readExponentDigits n text).2.length ≤ text.length := by
  -- A digit that makes the size too large is taken off as well.
  induction text generalizing n with
  | nil => simp [readExponentDigits]
  | cons c tail ih =>
    simp only [readExponentDigits]
    split
    · split
      · simp
      · have := ih (n * 10 + (c.toNat - '0'.toNat))
        simp only [List.length_cons]
        omega
    · simp

/-- The size of an exponent is taken off the front. -/
theorem readExponentSize_length_le {isNegative down : Bool} {n : Nat} {e : Int}
    {text rest : List Char} {number : Number}
    (read : readExponentSize isNegative n e down text = .ok (number, rest)) :
    rest.length ≤ text.length := by
  unfold readExponentSize at read
  split at read
  · simp at read
  rename_i c tail
  split at read
  · have bounded := readExponentDigits_length_le 0 (c :: tail)
    split at read
    · rename_i size after taken
      rw [taken] at bounded
      rw [readFloat_rest read]
      exact bounded
    -- The digits behind the one that was too many are dropped.
    · rename_i after taken
      rw [taken] at bounded
      split at read
      · simp at read
      · simp only [Except.ok.injEq, Prod.mk.injEq] at read
        rw [← read.2]
        exact Nat.le_trans (skipDigits_length_le after) bounded
  · simp at read

/-- An exponent is taken off the front. -/
theorem readExponent_length_le {isNegative : Bool} {n : Nat} {e : Int} {text rest : List Char}
    {number : Number} (read : readExponent isNegative n e text = .ok (number, rest)) :
    rest.length ≤ text.length := by
  unfold readExponent at read
  split at read
  · exact Nat.le_succ_of_le (readExponentSize_length_le read)
  · exact Nat.le_succ_of_le (readExponentSize_length_le read)
  · exact readExponentSize_length_le read

/-- With an exponent or without, the rest is a part of the text. -/
theorem readOptionalExponent_length_le {isNegative : Bool} {n : Nat} {e : Int}
    {text rest : List Char} {number : Number}
    (read : readOptionalExponent isNegative n e text = .ok (number, rest)) :
    rest.length ≤ text.length := by
  unfold readOptionalExponent at read
  split at read
  · exact Nat.le_succ_of_le (readExponent_length_le read)
  · exact Nat.le_succ_of_le (readExponent_length_le read)
  · exact Nat.le_of_eq (congrArg List.length (readFloat_rest read))

/-- A fraction is taken off the front. -/
theorem readFraction_length_le {isNegative : Bool} {n : Nat} {e : Int} {text rest : List Char}
    {number : Number} (read : readFraction isNegative n e text = .ok (number, rest)) :
    rest.length ≤ text.length := by
  have bounded := pushDigits_length_le n text
  unfold readFraction at read
  split at read
  · simp at read
  -- No digit fitted any more, and those that follow are dropped.
  · rename_i pushed c after cut
    rw [cut] at bounded
    simp only [List.length_cons] at bounded
    split at read
    · have := readOptionalExponent_length_le read
      have := skipDigits_length_le after
      omega
    · simp at read
  -- Some digits were pushed, and the others are dropped.
  · rename_i pushed count after _ _ cut
    rw [cut] at bounded
    have := readOptionalExponent_length_le read
    have := skipDigits_length_le after
    simp only at bounded
    omega

/-- What follows the integer part is taken off the front. -/
theorem readNumberTail_length_le {isNegative : Bool} {n dropped : Nat} {text rest : List Char}
    {number : Number} (read : readNumberTail isNegative n dropped text = .ok (number, rest)) :
    rest.length ≤ text.length := by
  -- Each case hands on what stands behind one character, or the text as it is.
  unfold readNumberTail at read
  split at read
  · exact Nat.le_succ_of_le (readFraction_length_le read)
  · exact Nat.le_succ_of_le (readExponent_length_le read)
  · exact Nat.le_succ_of_le (readExponent_length_le read)
  · split at read
    · simp only [Except.ok.injEq, Prod.mk.injEq] at read
      exact Nat.le_of_eq (congrArg List.length read.2.symm)
    · exact Nat.le_of_eq (congrArg List.length (readFloat_rest read))

/-- One digit is a number of 64 bits. -/
theorem digit_le_greatest {c : Char} (digit : c.isDigit = true) :
    c.toNat - '0'.toNat ≤ greatestNatural := by
  -- The digits lie between the characters of zero and nine.
  simp only [Char.isDigit, Bool.and_eq_true, decide_eq_true_eq] at digit
  have high := UInt32.le_iff_toNat_le.mp digit.2
  have value : c.toNat = c.val.toNat := rfl
  have nine : ('9' : Char).val.toNat = 57 := rfl
  simp only [greatestNatural, value]
  omega

/-- A number is taken off the front. -/
theorem readNumber_shorter {isNegative : Bool} {text rest : List Char} {number : Number}
    (read : readNumber isNegative text = .ok (number, rest)) : rest.length < text.length := by
  -- The first digit goes, and nothing comes back.
  unfold readNumber at read
  split at read
  · simp at read
  rename_i c tail
  split at read
  · simp at read
  rename_i digit
  have isDigit : c.isDigit = true := by simpa using digit
  split at read
  · simp at read
  have first : (pushDigits 0 (c :: tail)).2.2.length ≤ tail.length := by
    -- One digit always fits, so that the first one is gone.
    have small := digit_le_greatest isDigit
    simp only [pushDigits, isDigit, Nat.zero_mul, Nat.zero_add, small, decide_true,
      Bool.and_self, if_true]
    exact pushDigits_length_le _ tail
  rcases cut : pushDigits 0 (c :: tail) with ⟨n, count, after⟩
  rw [cut] at read first
  exact Nat.lt_succ_of_le
    (Nat.le_trans (readNumberTail_length_le read) (Nat.le_trans (skipDigits_length_le after) first))

/-- The place where the next item or member of a list or object starts, or what follows its end. -/
inductive Turn (text : List Char) where
  /-- The end was read. -/
  | close (rest : List Char) (shorter : rest.length < text.length)
  /-- Something more starts here. -/
  | more (start : List Char) (bound : start.length ≤ text.length)

/-- Looks for the next item of a list; all but the first stand behind a comma. -/
def nextItem (first : Bool) (text : List Char) : Except Fault (Turn text) :=
  match blanks : skipBlanks text with
  | [] => .error (.next .eofInList [])
  | c :: rest =>
    if c = ']' then .ok (.close rest (skipBlanks_cons_shorter blanks))
    else if first then .ok (.more (c :: rest) (skipBlanks_cons_shorter blanks))
    else if c = ',' then
      match inner : skipBlanks rest with
      | [] => .error (.next .eofInValue [])
      | d :: more =>
        -- A comma promises one more item.
        if d = ']' then .error (.next .trailingComma (d :: more))
        else .ok (.more (d :: more) (skipBlanks_twice_length_le blanks inner))
    else .error (.next .expectedListEnd (c :: rest))

/-- Looks for the next key of an object; all but the first stand behind a comma. -/
def nextKey (first : Bool) (text : List Char) : Except Fault (Turn text) :=
  match blanks : skipBlanks text with
  | [] => .error (.next .eofInObject [])
  | c :: rest =>
    if c = '\x7d' then .ok (.close rest (skipBlanks_cons_shorter blanks))
    else if first then
      -- The quote is passed over with what stands in front of the key.
      if c = '"' then .ok (.more rest (skipBlanks_cons_length_le blanks))
      else .error (.next .keyNotString (c :: rest))
    else if c = ',' then
      match inner : skipBlanks rest with
      | [] => .error (.next .eofInValue [])
      | d :: more =>
        if d = '"' then .ok (.more more (skipBlanks_behind_length_le blanks inner))
        else if d = '\x7d' then .error (.next .trailingComma (d :: more))
        else .error (.next .keyNotString (d :: more))
    else .error (.next .expectedObjectEnd (c :: rest))

/-- Reads the items of a list, up to and with its end. -/
def readItems {α : Type} (item : Reader α) (first : Bool) (text : List Char) :
    Except Fault (Read (List α) text) :=
  match nextItem first text with
  | .error fault => .error fault
  | .ok (.close rest shorter) => .ok ⟨[], rest, shorter⟩
  | .ok (.more start bound) =>
    match item start with
    | .error fault => .error fault
    | .ok ⟨value, rest, shorter⟩ =>
      match readItems item false rest with
      | .error fault => .error fault
      -- The item and the items behind it each shorten the text.
      | .ok ⟨values, final, last⟩ => .ok ⟨value :: values, final, by omega⟩
termination_by text.length

/-- Reads the colon behind a key. -/
def readColon (text : List Char) : Except Fault (Read Unit text) :=
  match blanks : skipBlanks text with
  | [] => .error (.next .eofInObject [])
  | c :: rest =>
    if c = ':' then .ok ⟨(), rest, skipBlanks_cons_shorter blanks⟩
    else .error (.next .expectedColon (c :: rest))

/-- The text behind a closing bracket, when that is what comes next. -/
def behindClose (close : Char) (text : List Char) : List Char :=
  match skipBlanks text with
  | [] => []
  | c :: rest => if c = close then rest else c :: rest

/--
Reads the members of an object, up to and with its end. Each key says how its value is read and
changes what was gathered, or is refused.
-/
def readMembers {σ : Type} (member : σ → String → Except Cause (Reader σ)) (state : σ)
    (first : Bool) (text : List Char) : Except Fault (Read σ text) :=
  match nextKey first text with
  | .error fault => .error fault
  | .ok (.close rest shorter) => .ok ⟨state, rest, shorter⟩
  | .ok (.more start bound) =>
    match key : readStringTail start with
    | .error fault => .error fault
    | .ok (chars, behind) =>
      -- A key may be refused before its value is looked at.
      match member state (String.ofList chars) with
      | .error cause => .error (.here cause (behindClose '\x7d' behind))
      | .ok reader =>
        match readColon behind with
        | .error fault => .error fault
        | .ok ⟨_, start, colon⟩ =>
          match reader start with
          | .error fault => .error fault
          | .ok ⟨next, rest, shorter⟩ =>
            -- Key, colon and value each take something off before the next member starts.
            have moved := readStringTail_shorter key
            match readMembers member next false rest with
            | .error fault => .error fault
            | .ok ⟨final, last, behind⟩ => .ok ⟨final, last, by omega⟩
termination_by text.length

/-- A reader whose result is changed afterwards. -/
def Reader.map {α β : Type} (f : α → β) (reader : Reader α) : Reader β := fun text =>
  match reader text with
  | .error fault => .error fault
  | .ok ⟨value, rest, shorter⟩ => .ok ⟨f value, rest, shorter⟩

/-- A reader that first passes over blanks. -/
def Reader.behindBlanks {α : Type} (reader : Reader α) : Reader α := fun text =>
  match reader (skipBlanks text) with
  | .error fault => .error fault
  | .ok ⟨value, rest, shorter⟩ =>
    .ok ⟨value, rest, Nat.lt_of_lt_of_le shorter (skipBlanks_length_le text)⟩

/-- A reader of a word whose first character was seen already. -/
def readWordAs {α : Type} (word : String) (value : α) : Reader α
  | [] => .error (.next .eofInValue [])
  | c :: rest =>
    match read : readWord word.toList rest with
    | .error fault => .error fault
    | .ok after =>
      have shorter : after.length < (c :: rest).length :=
        Nat.lt_succ_of_le (readWord_length_le read)
      .ok ⟨value, after, shorter⟩

/-- Reads a number with its sign. -/
def readSigned : Reader Number
  | [] => .error (.next .eofInValue [])
  | c :: rest =>
    if c = '-' then
      match read : readNumber true rest with
      | .error fault => .error fault
      | .ok (number, after) =>
        .ok ⟨number, after, by
          have := readNumber_shorter read
          simp only [List.length_cons]
          omega⟩
    else
      match read : readNumber false (c :: rest) with
      | .error fault => .error fault
      | .ok (number, after) => .ok ⟨number, after, readNumber_shorter read⟩

/-- Reads a string whose opening quote was seen already. -/
def readString : Reader String
  | [] => .error (.next .eofInValue [])
  | _ :: rest =>
    match read : readStringTail rest with
    | .error fault => .error fault
    | .ok (chars, after) =>
      .ok ⟨String.ofList chars, after, Nat.lt_succ_of_lt (readStringTail_shorter read)⟩

/-- Reads a list whose opening bracket was seen already. -/
def readList {α : Type} (item : Reader α) : Reader (List α)
  | [] => .error (.next .eofInValue [])
  | _ :: rest =>
    (readItems item true rest).map Read.behind

/-- Reads an object whose opening brace was seen already. -/
def readObject {σ : Type} (member : σ → String → Except Cause (Reader σ)) (empty : σ) : Reader σ
  | [] => .error (.next .eofInValue [])
  | _ :: rest =>
    (readMembers member empty true rest).map Read.behind

/-- Passes over any value. -/
def skip : Reader Unit := fun text =>
  match skipValue [] text with
  | .error fault => .error fault
  | .ok after =>
    -- A value takes something off the text, so that the other case does not arise.
    if shorter : after.length < text.length then .ok ⟨(), after, shorter⟩
    else .error (.next .expectedValue text)

/-- Reads a value by its first character; the readers of what is nested are given. -/
def readValueWith (array : Reader Value) (object : Reader Value) : Reader Value
  | [] => .error (.next .eofInValue [])
  | c :: rest =>
    if c = 'n' then readWordAs "ull" Value.null (c :: rest)
    else if c = 't' then readWordAs "rue" (Value.bool true) (c :: rest)
    else if c = 'f' then readWordAs "alse" (Value.bool false) (c :: rest)
    -- A sign or a digit can only start a number.
    else if c = '-' ∨ c.isDigit then Reader.map Value.number readSigned (c :: rest)
    else if c = '"' then Reader.map Value.string readString (c :: rest)
    else if c = '[' then array (c :: rest)
    else if c = '\x7b' then object (c :: rest)
    else .error (.next .expectedValue (c :: rest))

/-- A reader of something that is nested too deeply. -/
def tooDeep {α : Type} : Reader α := fun text => .error (.next .tooDeep text)

/-- The members of an object of values. -/
def valueMember (value : Reader Value) (members : List (String × Value)) (key : String) :
    Except Cause (Reader (List (String × Value))) :=
  .ok (Reader.map (fun v => insertMember key v members) value)

/-- Reads any value in which lists and objects are nested no deeper than a bound. -/
def readValue : Nat → Reader Value
  -- At the bound lists and objects are refused, and nothing else is.
  | 0 => Reader.behindBlanks (readValueWith tooDeep tooDeep)
  | depth + 1 =>
    Reader.behindBlanks <| readValueWith
      (Reader.map Value.array (readList (readValue depth)))
      (Reader.map Value.object (readObject (valueMember (readValue depth)) []))

/-- What a message calls a number. -/
def Number.description : Number → String
  | .natural n => "integer `" ++ toString n ++ "`"
  | .negative size => "integer `-" ++ toString size ++ "`"
  | .float isNegative size =>
    "floating point `" ++ (if isNegative then "-" else "") ++ size.text ++ "`"

/-- The fault of a value that is not of the expected kind; lists and objects are not read. -/
def mismatch (expected : String) (text : List Char) : Fault :=
  -- A value that is wrong in itself is reported as that.
  let wrong {α : Type} (describe : α → String) : Except Fault (Read α text) → Fault
    | .error fault => fault
    | .ok read => .here (.mismatch (describe read.value) expected) read.rest
  match text with
  | [] => .next .expectedValue []
  | c :: _ =>
    if c = 'n' then wrong (fun _ => "null") (readWordAs "ull" () text)
    else if c = 't' then wrong (fun _ => "boolean `true`") (readWordAs "rue" () text)
    else if c = 'f' then wrong (fun _ => "boolean `false`") (readWordAs "alse" () text)
    else if c = '-' ∨ c.isDigit then wrong Number.description (readSigned text)
    else if c = '"' then wrong (fun s => "string " ++ quoted s) (readString text)
    -- A list or an object is reported at its start, as nothing of it is read.
    else if c = '[' then .here (.mismatch "sequence" expected) text
    else if c = '\x7b' then .here (.mismatch "map" expected) text
    else .next .expectedValue text

end Manuscript.Json
