import Manuscript.Json.Scan

/-! Passing over a JSON value without building it, to any depth. -/

namespace Manuscript.Json

/-- A word that was read was in front of the rest. -/
theorem readWord_length_le {word text rest : List Char} (read : readWord word text = .ok rest) :
    rest.length ≤ text.length := by
  -- Each character of the word takes one off the text.
  induction word generalizing text with
  | nil => simp [readWord] at read; simp [read]
  | cons w word ih =>
    cases text with
    | nil => simp [readWord] at read
    | cons c text =>
      simp only [readWord] at read
      split at read
      · have := ih read
        simp only [List.length_cons]
        omega
      · simp at read

/-- A string that was passed over was in front of the rest. -/
theorem skipStringTail_shorter {text rest : List Char} (read : skipStringTail text = .ok rest) :
    rest.length < text.length := by
  fun_induction skipStringTail text with
  | case1 => simp at read
  | case2 tail => simp only [Except.ok.injEq] at read; simp [← read]
  | case3 => simp at read
  -- Numeric escapes are measured by their digits, the others by the characters they take.
  | case4 tail unit after hex ih =>
    have moved := readHex_shorter hex
    have := ih read
    simp only [List.length_cons]
    omega
  | case5 => simp at read
  | case6 c tail _ _ ih =>
    have := ih read
    simp only [List.length_cons]
    omega
  | case7 => simp at read
  | case8 => simp at read
  | case9 c tail _ _ _ _ _ ih =>
    have := ih read
    simp only [List.length_cons]
    omega

/-- Skipping digits adds nothing. -/
theorem skipDigits_length_le (text : List Char) : (skipDigits text).length ≤ text.length :=
  (List.dropWhile_sublist Char.isDigit).length_le

/-- A digit in front is skipped. -/
theorem skipDigits_shorter {c : Char} (text : List Char) (digit : c.isDigit = true) :
    (skipDigits (c :: text)).length < (c :: text).length := by
  have := skipDigits_length_le text
  simp only [skipDigits, List.dropWhile_cons, digit, if_true, List.length_cons] at this ⊢
  omega

/-- Digits that were passed over were in front of the rest. -/
theorem skipExponentDigits_length_le {text rest : List Char}
    (read : skipExponentDigits text = .ok rest) : rest.length ≤ text.length := by
  unfold skipExponentDigits at read
  split at read
  · simp at read
  · split at read
    · rw [← Except.ok.inj read]
      exact skipDigits_length_le _
    · simp at read

/-- An exponent that was passed over was in front of the rest. -/
theorem skipExponent_length_le {text rest : List Char} (read : skipExponent text = .ok rest) :
    rest.length ≤ text.length := by
  -- A sign may be dropped first.
  unfold skipExponent at read
  split at read
  · exact Nat.le_succ_of_le (skipExponentDigits_length_le read)
  · exact Nat.le_succ_of_le (skipExponentDigits_length_le read)
  · exact skipExponentDigits_length_le read

/-- With an exponent or without, nothing is added. -/
theorem skipOptionalExponent_length_le {text rest : List Char}
    (read : skipOptionalExponent text = .ok rest) : rest.length ≤ text.length := by
  -- The letter is taken off in front of the exponent.
  unfold skipOptionalExponent at read
  split at read
  · have := skipExponent_length_le read
    simp only [List.length_cons]
    omega
  · have := skipExponent_length_le read
    simp only [List.length_cons]
    omega
  · simp only [Except.ok.injEq] at read
    simp [read]

/-- A number that was passed over was in front of the rest. -/
theorem skipNumber_shorter {text rest : List Char} (read : skipNumber text = .ok rest) :
    rest.length < text.length := by
  -- At least the first digit goes, and nothing comes back.
  unfold skipNumber at read
  split at read
  · simp at read
  · rename_i c tail
    split at read
    · simp at read
    rename_i digit
    split at read
    · simp at read
    have moved := skipDigits_shorter tail (by simpa using digit)
    -- Behind a point there is one more digit at least.
    split at read
    · rename_i fraction cut
      rw [cut] at moved
      simp only [List.length_cons] at moved ⊢
      unfold skipFraction at read
      split at read
      · have := skipOptionalExponent_length_le read
        have := skipDigits_length_le fraction
        omega
      · simp at read
    · have := skipOptionalExponent_length_le read
      omega

/-- What encloses the value that is passed over. -/
inductive Frame where
  /-- A list. -/
  | list
  /-- An object. -/
  | object

/-- The text behind blanks is no longer than the text. -/
theorem length_of_skipBlanks {text rest : List Char} (skipped : skipBlanks text = rest) :
    rest.length ≤ text.length := skipped ▸ skipBlanks_length_le text

/-- Behind the first character that is not blank the text is shorter. -/
theorem skipBlanks_cons_shorter {c : Char} {text rest : List Char}
    (skipped : skipBlanks text = c :: rest) : rest.length < text.length :=
  length_of_skipBlanks skipped

/-- Behind the first character that is not blank the text is no longer. -/
theorem skipBlanks_cons_length_le {c : Char} {text rest : List Char}
    (skipped : skipBlanks text = c :: rest) : rest.length ≤ text.length :=
  Nat.le_of_lt (skipBlanks_cons_shorter skipped)

/-- Behind one character that is not blank, and at the next one, the text is no longer. -/
theorem skipBlanks_twice_length_le {c d : Char} {text rest more : List Char}
    (outer : skipBlanks text = c :: rest) (inner : skipBlanks rest = d :: more) :
    (d :: more).length ≤ text.length :=
  Nat.le_trans (length_of_skipBlanks inner) (skipBlanks_cons_length_le outer)

/-- Behind two characters that are not blank the text is no longer. -/
theorem skipBlanks_behind_length_le {c d : Char} {text rest more : List Char}
    (outer : skipBlanks text = c :: rest) (inner : skipBlanks rest = d :: more) :
    more.length ≤ text.length :=
  Nat.le_trans (skipBlanks_cons_length_le inner) (skipBlanks_cons_length_le outer)

/-- Passes over a value that is neither a list nor an object, by its first character. -/
def skipScalarTail (c : Char) (rest : List Char) : Except Fault (List Char) :=
  if c = 'n' then readWord "ull".toList rest
  else if c = 't' then readWord "rue".toList rest
  else if c = 'f' then readWord "alse".toList rest
  else if c = '-' then skipNumber rest
  else if c.isDigit then skipNumber (c :: rest)
  else if c = '"' then skipStringTail rest
  else .error (.next .expectedValue (c :: rest))

/-- A scalar that was passed over was in front of the rest. -/
theorem skipScalarTail_length_le {c : Char} {rest after : List Char}
    (read : skipScalarTail c rest = .ok after) : after.length ≤ rest.length := by
  -- Words and strings go on behind their first character, and numbers with it.
  unfold skipScalarTail at read
  split at read
  · exact readWord_length_le read
  split at read
  · exact readWord_length_le read
  split at read
  · exact readWord_length_le read
  split at read
  · exact Nat.le_of_lt (skipNumber_shorter read)
  split at read
  · have := skipNumber_shorter read
    simp only [List.length_cons] at this
    omega
  split at read
  · exact Nat.le_of_lt (skipStringTail_shorter read)
  · simp at read

mutual

/-- Passes over a value and over what closes the frames around it. -/
def skipValue (frames : List Frame) (text : List Char) : Except Fault (List Char) :=
  match _blanks : skipBlanks text with
  | [] => .error (.next .eofInValue [])
  | c :: rest =>
    if c = '[' then
      match _inner : skipBlanks rest with
      | [] => .error (.next .eofInList [])
      -- An empty list has no item to go to.
      | d :: more => if d = ']' then skipAfter frames more else skipValue (.list :: frames) rest
    else if c = '\x7b' then
      match _inner : skipBlanks rest with
      | [] => .error (.next .eofInObject [])
      -- An empty object has no key to go to.
      | d :: more => if d = '\x7d' then skipAfter frames more else skipKey (.object :: frames) rest
    else
      match _scalar : skipScalarTail c rest with
      | .error fault => .error fault
      | .ok after => skipAfter frames after
termination_by text.length
decreasing_by
  -- Each of the calls goes on behind the character that was looked at.
  all_goals
    have outer := length_of_skipBlanks _blanks
    simp only [List.length_cons] at outer
  · have := length_of_skipBlanks _inner
    simp only [List.length_cons] at this
    omega
  · omega
  · have := length_of_skipBlanks _inner
    simp only [List.length_cons] at this
    omega
  · omega
  · have := skipScalarTail_length_le _scalar
    omega

/-- Goes on behind a value, with the frames that are open. -/
def skipAfter (frames : List Frame) (text : List Char) : Except Fault (List Char) :=
  match frames with
  | [] => .ok text
  | .list :: outer =>
    match _blanks : skipBlanks text with
    | [] => .error (.next .eofInList [])
    | c :: rest =>
      -- A comma leads to the next item, and the bracket to what is around the list.
      if c = ',' then skipValue (.list :: outer) rest
      else if c = ']' then skipAfter outer rest
      else .error (.next .expectedListEnd (c :: rest))
  | .object :: outer =>
    match _blanks : skipBlanks text with
    | [] => .error (.next .eofInObject [])
    | c :: rest =>
      -- A comma leads to the next key, and the brace to what is around the object.
      if c = ',' then skipKey (.object :: outer) rest
      else if c = '\x7d' then skipAfter outer rest
      else .error (.next .expectedObjectEnd (c :: rest))
termination_by text.length
decreasing_by
  all_goals
    have outer := length_of_skipBlanks _blanks
    simp only [List.length_cons] at outer
    omega

/-- Passes over a key, its colon and its value. -/
def skipKey (frames : List Frame) (text : List Char) : Except Fault (List Char) :=
  match _blanks : skipBlanks text with
  | [] => .error (.next .eofInObject [])
  | c :: rest =>
    if c ≠ '"' then .error (.next .keyNotString (c :: rest))
    else
      match _key : skipStringTail rest with
      | .error fault => .error fault
      | .ok after =>
        match _colon : skipBlanks after with
        | [] => .error (.next .eofInObject [])
        | d :: value =>
          if d = ':' then skipValue frames value else .error (.next .expectedColon (d :: value))
termination_by text.length
decreasing_by
  -- The quote, the key and the colon are all taken off in front of the value.
  have outer := length_of_skipBlanks _blanks
  have key := skipStringTail_shorter _key
  have colon := length_of_skipBlanks _colon
  simp only [List.length_cons] at outer colon
  omega

end

end Manuscript.Json
