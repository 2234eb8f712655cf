import Manuscript.Latex.Escape

/-!
Running text as LaTeX reads it. A backslash takes a command with it: the letters behind it up to the
last one, or else the one character behind it. Every other reserved character would do something by
itself, so that a text with one in it is no running text. Escaped text reads as what was escaped.
-/

namespace Manuscript

/-- The characters that LaTeX reserves. -/
def reservedChars : List Char := ['\\', '\x7b', '\x7d', '$', '&', '%', '#', '^', '_', '~']

/--
What an engine takes for letters: those of ASCII at least, and none of the reserved characters.
Engines differ in what else they take for one.
-/
structure Alphabet where
  /-- A character is a letter. -/
  isLetter : Char → Bool
  /-- The letters of ASCII are among them. -/
  isLetter_of_isAlpha : ∀ c, c.isAlpha = true → isLetter c = true
  /-- Reserved characters are not. -/
  isLetter_of_reserved : ∀ c ∈ reservedChars, isLetter c = false

namespace Alphabet

/-- The letters of ASCII and no others. -/
def ascii : Alphabet where
  isLetter := Char.isAlpha
  isLetter_of_isAlpha _ alpha := alpha
  isLetter_of_reserved c reserved := by
    have none : reservedChars.all (fun c => !c.isAlpha) = true := by decide
    simpa using List.all_eq_true.mp none c reserved

/-- The character that is set by a command, if it is one of those that set a reserved character. -/
def setBy? (word : List Char) : Option Char :=
  if word = "textbackslash".toList then some '\\'
  else if word = "textasciicircum".toList then some '^'
  else if word = "textasciitilde".toList then some '~'
  else none

variable (letters : Alphabet)

/-- Reads a command behind its backslash: the character that it sets, and what follows. -/
def command? (text : List Char) : Option (Char × List Char) :=
  match text.takeWhile letters.isLetter, text.dropWhile letters.isLetter with
  -- No letter is next, so that the command is a single character, which it sets.
  | [], c :: rest => some (c, rest)
  | [], [] => none
  -- An empty group has to end the word.
  | word, '\x7b' :: '\x7d' :: rest => (setBy? word).map fun c => (c, rest)
  | _, _ => none

/-- Reads what sets the first character of a text, and gives it with what follows. -/
def next? : List Char → Option (Char × List Char)
  | [] => none
  | c :: rest =>
    if c = '\\' then letters.command? rest
    else if c ∈ reservedChars then none
    else some (c, rest)

variable {letters} {c : Char} {text rest : List Char}

/-- A command is taken off the front. -/
theorem command?_shorter (found : letters.command? text = some (c, rest)) :
    rest.length < text.length := by
  have dropped : (text.dropWhile letters.isLetter).length ≤ text.length :=
    (List.dropWhile_sublist letters.isLetter).length_le
  -- A command of one letter ends where its letters do, and any other one with its group.
  unfold command? at found
  split at found
  · rename_i first behind _ single
    simp only [Option.some.injEq, Prod.mk.injEq] at found
    rw [single, found.2] at dropped
    exact dropped
  · cases found
  · rename_i behind group _
    obtain ⟨sets, -, same⟩ := Option.map_eq_some_iff.mp found
    rw [Prod.mk.injEq] at same
    -- The braces are not part of what is left.
    rw [group, same.2] at dropped
    simp only [List.length_cons] at dropped
    omega
  · cases found

/-- What sets a character is taken off the front. -/
theorem next?_shorter (found : letters.next? text = some (c, rest)) :
    rest.length < text.length := by
  -- A backslash begins a command; any other character that may stand by itself is taken alone.
  cases text with
  | nil => cases found
  | cons first behind =>
    simp only [next?] at found
    split at found
    · exact Nat.lt_succ_of_lt (command?_shorter found)
    split at found
    · cases found
    · simp only [Option.some.injEq, Prod.mk.injEq] at found
      rw [← found.2]
      exact Nat.lt_succ_self _

variable (letters) in
/-- Reads a text from its front to its end: the characters that it sets, if it is running text. -/
def read? (text : List Char) : Option (List Char) :=
  if text = [] then some []
  else
    match _found : letters.next? text with
    | none => none
    | some (c, rest) => (read? rest).map (c :: ·)
termination_by text.length
decreasing_by exact next?_shorter _found

/-- What is set first is read first. -/
theorem read?_of_next? (found : letters.next? text = some (c, rest)) :
    letters.read? text = (letters.read? rest).map (c :: ·) := by
  have nonempty : text ≠ [] := by
    rintro rfl
    cases found
  -- What was found first is the same, so only the text behind it is left to be read.
  rw [read?, if_neg nonempty]
  split
  · rename_i missing
    rw [found] at missing
    cases missing
  · rename_i again
    rw [found] at again
    cases again
    rfl

/-- A reserved character behind a backslash is set by this command. -/
theorem next?_backslash_reserved (reserved : c ∈ reservedChars) (rest : List Char) :
    letters.next? ('\\' :: c :: rest) = some (c, rest) := by
  have noLetter := letters.isLetter_of_reserved c reserved
  simp [next?, command?, noLetter]

/-- A word that sets a character is made of letters of ASCII. -/
theorem isAlpha_of_setBy? {word : List Char} (sets : setBy? word = some c) :
    word ≠ [] ∧ ∀ d ∈ word, d.isAlpha = true := by
  -- There are three such words, and their letters can be looked at.
  unfold setBy? at sets
  split at sets
  · subst word
    exact ⟨by decide, List.all_eq_true.mp (by decide)⟩
  split at sets
  · subst word
    exact ⟨by decide, List.all_eq_true.mp (by decide)⟩
  split at sets
  · subst word
    exact ⟨by decide, List.all_eq_true.mp (by decide)⟩
  · cases sets

/-- A word behind a backslash is read up to the group behind it, whatever follows the group. -/
theorem next?_backslash_word {word : List Char} (sets : setBy? word = some c) (rest : List Char) :
    letters.next? ('\\' :: (word ++ '\x7b' :: '\x7d' :: rest)) = some (c, rest) := by
  have ⟨nonempty, alpha⟩ := isAlpha_of_setBy? sets
  have inside : ∀ d ∈ word, letters.isLetter d = true :=
    fun d member => letters.isLetter_of_isAlpha d (alpha d member)
  -- The brace is no letter, so that it ends the word even if letters stand behind the group.
  have outside : letters.isLetter '\x7b' = false := letters.isLetter_of_reserved _ (by decide)
  have taking : (word ++ '\x7b' :: '\x7d' :: rest).takeWhile letters.isLetter = word := by
    rw [List.takeWhile_append_of_pos inside]
    simp [outside]
  have dropping : (word ++ '\x7b' :: '\x7d' :: rest).dropWhile letters.isLetter =
      '\x7b' :: '\x7d' :: rest := by
    rw [List.dropWhile_append_of_pos inside]
    simp [outside]
  obtain ⟨first, more, rfl⟩ := List.exists_cons_of_ne_nil nonempty
  simp only [next?, if_true, command?, taking, dropping, sets, Option.map_some]

/-- A word that runs on into the text behind it is another word, which sets nothing. -/
example : ascii.next? "\\textbackslashes\x7b\x7d".toList = none := by decide

/-- A character as it is written in running text sets this character, whatever follows. -/
theorem next?_escapeChar (c : Char) (rest : List Char) :
    letters.next? (escapeChar c ++ rest) = some (c, rest) := by
  unfold escapeChar reservedForm?
  split
  -- Three characters are set by words, and the other reserved ones by themselves.
  case h_1 => exact next?_backslash_word (show setBy? "textbackslash".toList = some _ by decide) rest
  case h_8 => exact next?_backslash_word (show setBy? "textasciicircum".toList = some _ by decide) rest
  case h_10 => exact next?_backslash_word (show setBy? "textasciitilde".toList = some _ by decide) rest
  case h_11 =>
    have free : c ∉ reservedChars := by simp_all [reservedChars]
    have noBackslash : c ≠ '\\' := fun same => free (same ▸ by decide)
    simp [next?, free, noBackslash]
  all_goals exact next?_backslash_reserved (by decide) rest

/-- Escaped characters are read as these characters. -/
theorem read?_escapeChars (text : List Char) : letters.read? (escapeChars text) = some text := by
  induction text with
  | nil => simp [escapeChars, read?]
  | cons c rest ih =>
    -- Each character is read back by itself, whatever stands behind its escape.
    have split : escapeChars (c :: rest) = escapeChar c ++ escapeChars rest := List.flatMap_cons
    rw [split, read?_of_next? (next?_escapeChar c (escapeChars rest)), ih, Option.map_some]

variable (letters) in
/-- The string that a string sets, if it is running text. -/
def readText? (text : String) : Option String := (letters.read? text.toList).map String.ofList

/--
Every string is read back from its escaped form, with any alphabet, so that no two strings have the
same one.
-/
theorem readText?_escapeText (letters : Alphabet) (text : String) :
    letters.readText? (escapeText text) = some text ∧
      ∀ other, escapeText other = escapeText text ↔ other = text := by
  have readBack (text : String) : letters.readText? (escapeText text) = some text := by
    rw [readText?, escapeText, String.toList_ofList, read?_escapeChars, Option.map_some,
      String.ofList_toList]
  refine ⟨readBack text, fun other => ⟨fun same => ?_, congrArg escapeText⟩⟩
  -- One escaped form is read in one way only.
  have read := readBack other
  rw [same, readBack text] at read
  exact (Option.some.inj read).symm

end Alphabet

end Manuscript
