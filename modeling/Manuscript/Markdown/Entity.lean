import Manuscript.Json.Scan
import Manuscript.Markdown.EntityNames
import Manuscript.Text.Search

/-! Character references: by number and by name. -/

namespace Manuscript.Markdown

/-- The number that hexadecimal digits stand for. -/
def hexNumber (digits : List Char) : Nat :=
  digits.foldl (fun acc c => acc * 16 + (Json.hexValue? c).getD 0) 0

/-- The number that decimal digits stand for. -/
def decimalNumber (digits : List Char) : Nat :=
  digits.foldl (fun acc c => acc * 10 + (c.toNat - '0'.toNat)) 0

/-- The characters that an entry of the index names, when it is the one of the name. -/
def entryOf? (name : List Char) (entry : List Char) : Option (List Char) :=
  match piecesAt ' ' entry with
  | [] => none
  | head :: codes =>
    if head = name then some (codes.map fun digits => Char.ofNat (hexNumber digits)) else none

/-- The characters that a named reference stands for. -/
def namedReference? (name : List Char) : Option (List Char) :=
  entityIndex.findSome? fun line =>
    (piecesAt ';' line.toList).findSome? (entryOf? name)

/-- The character of a code point; what is no character becomes the replacement character. -/
def characterOf (n : Nat) : Char :=
  -- The first character behind the surrogates is left out with them.
  if n = 0 ∨ (0xd800 ≤ n ∧ n ≤ 0xe000) ∨ 0x110000 ≤ n then '\ufffd' else Char.ofNat n

/-- How many digits a numeric reference may have. -/
def referenceDigits : Nat := 7

/-- How long the name of a reference may be. -/
def referenceNameLength : Nat := 31

/-- A numeric reference behind its number sign. -/
def numericReference? (text : List Char) : Option (Char × List Char) :=
  let (digits, rest, value) : List Char × List Char × (List Char → Nat) :=
    match text with
    | 'x' :: more | 'X' :: more =>
      (more.takeWhile fun c => (Json.hexValue? c).isSome,
        more.dropWhile fun c => (Json.hexValue? c).isSome, hexNumber)
    | _ => (text.takeWhile Char.isDigit, text.dropWhile Char.isDigit, decimalNumber)
  match rest with
  | ';' :: after =>
    -- Numbers with more digits are no references, whatever they stand for.
    if 1 ≤ digits.length ∧ digits.length ≤ referenceDigits then
      some (characterOf (value digits), after)
    else none
  | _ => none

/-- A reference behind its ampersand: what it stands for and what follows it. -/
def reference? (text : List Char) : Option (List Char × List Char) :=
  match text with
  | '#' :: rest => (numericReference? rest).map fun (c, after) => ([c], after)
  | _ =>
    let name := text.takeWhile fun c => c.isAlphanum
    match text.drop name.length with
    | ';' :: after =>
      -- No reference has a name of one letter.
      if 2 ≤ name.length ∧ name.length ≤ referenceNameLength then
        (namedReference? name).map fun meant => (meant, after)
      else none
    | _ => none

/-- What a numeric reference leaves is shorter. -/
theorem numericReference?_shorter {text after : List Char} {c : Char}
    (found : numericReference? text = some (c, after)) : after.length < text.length := by
  -- Digits are taken off the front, and the semicolon behind them.
  have digits : ∀ (p : Char → Bool) (more : List Char), more.length ≤ text.length →
      more.dropWhile p = ';' :: after → after.length < text.length := by
    intro p more bound rest
    have less := (List.dropWhile_sublist (l := more) p).length_le
    rw [rest] at less
    simp only [List.length_cons] at less
    omega
  unfold numericReference? at found
  split at found
  · rename_i rest value choice
    split at found
    · split at found
      · simp only [Option.some.injEq, Prod.mk.injEq] at found
        rw [found.2] at choice
        split at choice
        · simp only [Prod.mk.injEq] at choice
          exact digits _ _ (by simp) choice.2.1
        · simp only [Prod.mk.injEq] at choice
          exact digits _ _ (by simp) choice.2.1
        · simp only [Prod.mk.injEq] at choice
          exact digits _ _ (Nat.le_refl _) choice.2.1
      · simp at found
    · simp at found

/-- What a reference leaves is shorter. -/
theorem reference?_shorter {text meant after : List Char}
    (found : reference? text = some (meant, after)) : after.length < text.length := by
  -- A number has a lemma of its own, and a name is measured up to its semicolon.
  unfold reference? at found
  split at found
  · rename_i rest
    cases number : numericReference? rest with
    | none => simp [number] at found
    | some pair =>
      have less := numericReference?_shorter number
      simp only [number, Option.map_some, Option.some.injEq, Prod.mk.injEq] at found
      simp only [List.length_cons]
      rw [← found.2]
      omega
  · simp only at found
    split at found
    · rename_i rest cut
      split at found
      · rename_i name
        cases lookup : namedReference? (text.takeWhile fun c => c.isAlphanum) with
        | none => simp [lookup] at found
        | some chars =>
          simp only [lookup, Option.map_some, Option.some.injEq, Prod.mk.injEq] at found
          have less := congrArg List.length cut
          simp only [List.length_drop, List.length_cons] at less
          rw [← found.2]
          omega
      · simp at found
    · simp at found

/-- A text with its references replaced by what they stand for. -/
def unescapeReferences (text : List Char) : List Char :=
  match text with
  | [] => []
  | c :: rest =>
    if c = '&' then
      match _found : reference? rest with
      | some (meant, after) => meant ++ unescapeReferences after
      | none => '&' :: unescapeReferences rest
    else c :: unescapeReferences rest
termination_by text.length
decreasing_by
  · have := reference?_shorter _found
    simp only [List.length_cons]
    omega
  · simp
  · simp

end Manuscript.Markdown
