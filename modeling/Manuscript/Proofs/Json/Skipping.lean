import Manuscript.Proofs.Json.Values

/-! Any text of a value is passed over, with whatever is nested in it. -/

namespace Manuscript.Json

section Steps

variable {frames : List Frame} {text rest : List Char} {c : Char}

/-- How a value is passed over is told by its first character. -/
theorem skipValue_eq (blanks : skipBlanks text = c :: rest) :
    skipValue frames text =
      if c = '[' then
        match skipBlanks rest with
        | [] => .error (.next .eofInList [])
        | d :: more =>
          if d = ']' then skipAfter frames more else skipValue (.list :: frames) rest
      else if c = '\x7b' then
        match skipBlanks rest with
        | [] => .error (.next .eofInObject [])
        | d :: more =>
          if d = '\x7d' then skipAfter frames more else skipKey (.object :: frames) rest
      else
        match skipScalarTail c rest with
        | .error fault => .error fault
        | .ok after => skipAfter frames after := by
  -- The blanks fix what is matched, and the cases are then those of the definition.
  rw [skipValue]
  split
  · -- There is text left, as there is a first character.
    simp_all
  · rename_i d more seen
    obtain ⟨rfl, rfl⟩ := List.cons.inj (blanks.symm.trans seen)
    cases skipBlanks rest <;> cases skipScalarTail c rest <;> rfl

/-- Behind an item there is a comma or the end of the list. -/
theorem skipAfter_list_eq (blanks : skipBlanks text = c :: rest) :
    skipAfter (.list :: frames) text =
      if c = ',' then skipValue (.list :: frames) rest
      else if c = ']' then skipAfter frames rest
      else .error (.next .expectedListEnd (c :: rest)) := by
  -- The first character behind the blanks is the one that is given.
  rw [skipAfter]
  split
  · simp_all
  · rename_i d more seen
    obtain ⟨rfl, rfl⟩ := List.cons.inj (blanks.symm.trans seen)
    rfl

/-- Behind a member there is a comma or the end of the object. -/
theorem skipAfter_object_eq (blanks : skipBlanks text = c :: rest) :
    skipAfter (.object :: frames) text =
      if c = ',' then skipKey (.object :: frames) rest
      else if c = '\x7d' then skipAfter frames rest
      else .error (.next .expectedObjectEnd (c :: rest)) := by
  -- The first character behind the blanks is the one that is given.
  rw [skipAfter]
  split
  · simp_all
  · rename_i d more seen
    obtain ⟨rfl, rfl⟩ := List.cons.inj (blanks.symm.trans seen)
    rfl

/-- Behind a key and its colon there is a value. -/
theorem skipKey_eq {after value : List Char} (blanks : skipBlanks text = '"' :: rest)
    (key : skipStringTail rest = .ok after) (colon : skipBlanks after = ':' :: value) :
    skipKey frames text = skipValue frames value := by
  -- The three things that are looked for are found one behind the other, each behind its blanks.
  rw [skipKey]
  split
  · simp_all
  · rename_i d behind seen
    obtain ⟨rfl, rfl⟩ := List.cons.inj (blanks.symm.trans seen)
    rw [if_neg (by decide)]
    split
    · simp_all
    · -- The key ends where it was said to end.
      rename_i final found
      rw [key] at found
      cases found
      split
      · simp_all
      · rename_i e last next
        obtain ⟨rfl, rfl⟩ := List.cons.inj (colon.symm.trans next)
        rw [if_pos rfl]

end Steps

namespace Form

/-- What is neither a list nor an object is passed over by its first character. -/
theorem skipScalarTail_form {form : Form} (flat : form.nesting = 0) :
    ∃ c tail, form.lexemes = [c :: tail] ∧ form.Opens c ∧ (c ≠ '[' ∧ c ≠ '\x7b') ∧
      ∀ rest, Stops rest → skipScalarTail c (tail ++ rest) = .ok rest := by
  rcases form with _ | (_ | _) | number | string | items | members
  case null =>
    exact ⟨'n', _, rfl, rfl, by decide, fun rest _ => readWord_append "ull".toList rest⟩
  case bool.false =>
    exact ⟨'f', _, rfl, rfl, by decide, fun rest _ => readWord_append "alse".toList rest⟩
  case bool.true =>
    exact ⟨'t', _, rfl, rfl, by decide, fun rest _ => readWord_append "rue".toList rest⟩
  case string =>
    refine ⟨'"', _, rfl, rfl, by decide, fun rest _ => ?_⟩
    -- Of a string the quote is the first character, and the rest is passed over to the other one.
    have skipped := skipStringTail_inside string rest
    rw [List.append_assoc]
    exact skipped
  case number =>
    obtain ⟨c, text, front, opens⟩ := number_text number
    have start : c = '-' ∨ c.isDigit = true := opens.imp And.left And.left
    have flat : c ≠ '[' ∧ c ≠ '\x7b' :=
      ⟨ne_of_opens_number start (by decide), ne_of_opens_number start (by decide)⟩
    refine ⟨c, text, by rw [lexemes, front], start, flat, fun rest stops => ?_⟩
    -- The sign is passed over by itself, and a digit together with those behind it.
    have skipped := skipNumber_append number stops
    rw [← List.append_assoc] at skipped
    rcases opens with ⟨rfl, rfl⟩ | ⟨digit, whole⟩
    · exact skipped
    · rw [← whole] at skipped
      have other {d : Char} := ne_of_opens_number (d := d) (.inr digit)
      -- A digit is none of the characters that start a word.
      have letters : c ≠ 'n' ∧ c ≠ 't' ∧ c ≠ 'f' ∧ c ≠ '-' :=
        ⟨other (by decide), other (by decide), other (by decide), fun same => by
          rw [same] at digit
          exact absurd digit (by decide)⟩
      simp only [skipScalarTail, letters, digit, if_false, if_true]
      exact skipped
  case array => cases flat
  case object => cases flat

/-- A text of what is neither a list nor an object is passed over. -/
theorem skipValue_flat {form : Form} (flat : form.nesting = 0) (frames : List Frame)
    (gaps : Nat → List Blank) {rest : List Char} (stops : Stops rest) :
    skipValue frames (spaced gaps form.lexemes ++ rest) = skipAfter frames rest := by
  obtain ⟨c, tail, front, opens, noFrame, scalar⟩ := skipScalarTail_form flat
  -- The only lexeme comes behind its blanks.
  have blanks : skipBlanks (spaced gaps [c :: tail] ++ rest) = c :: (tail ++ rest) := by
    rw [Json.skipBlanks_spaced opens.visible.1, spaced_tight_singleton]
    rfl
  rw [front, skipValue_eq blanks, if_neg noFrame.1, if_neg noFrame.2, scalar rest stops]

/-- A key is passed over with its colon. -/
theorem skipKey_text (key : StringForm) (frames : List Frame) (gaps beforeColon : Nat → List Blank)
    (rest : List Char) :
    skipKey frames (spaced gaps [key.text] ++ (spaced beforeColon [[':']] ++ rest)) =
      skipValue frames rest :=
  -- The key, its quote and the colon each come behind their blanks.
  skipKey_eq (skipBlanks_key key gaps _) (skipStringTail_inside key _)
    (Json.skipBlanks_spaced rfl ..)

mutual

/-- A text of a value is passed over. -/
theorem skipValue_form (form : Form) (frames : List Frame) (gaps : Nat → List Blank)
    {rest : List Char} (stops : Stops rest) :
    skipValue frames (spaced gaps form.lexemes ++ rest) = skipAfter frames rest := by
  match form with
  | .array [] =>
    have opening : skipBlanks (spaced gaps [['['], [']']] ++ rest) =
        '[' :: (spaced (fun i => gaps (i + 1)) [[']']] ++ rest) := Json.skipBlanks_spaced rfl ..
    -- An empty list is closed at once.
    have closing : skipBlanks (spaced (fun i => gaps (i + 1)) [[']']] ++ rest) = ']' :: rest :=
      Json.skipBlanks_spaced rfl ..
    exact (skipValue_eq opening).trans (by simp only [if_true, closing])
  | .array (item :: items) =>
    have opening : skipBlanks (spaced gaps (Form.array (item :: items)).lexemes ++ rest) =
        '[' :: (spaced (fun i => gaps (i + 1)) (itemLexemes true (item :: items)) ++ rest) :=
      Json.skipBlanks_spaced rfl ..
    -- Behind the bracket is the first item, whose first character closes no list.
    obtain ⟨later, text⟩ := spaced_itemLexemes true (fun i => gaps (i + 1)) item items
    have inner := item.skipBlanks_spaced (fun i => gaps (i + 1))
      (spaced later (itemLexemes false items) ++ rest)
    obtain ⟨c, more, front, opens⟩ := item.spaced_tight fun i => gaps (i + 1)
    rw [front] at inner
    rw [text, List.append_assoc] at opening
    rw [skipValue_eq opening]
    simp only [if_true, List.nil_append, inner, List.cons_append, opens.visible.2.1, if_false]
    rw [skipValue_form item _ _ (stops_itemLexemes items later rest),
      skipAfter_items items frames later rest]
  | .object [] =>
    have opening : skipBlanks (spaced gaps [['\x7b'], ['\x7d']] ++ rest) =
        '\x7b' :: (spaced (fun i => gaps (i + 1)) [['\x7d']] ++ rest) :=
      Json.skipBlanks_spaced rfl ..
    have closing : skipBlanks (spaced (fun i => gaps (i + 1)) [['\x7d']] ++ rest) =
        '\x7d' :: rest := Json.skipBlanks_spaced rfl ..
    exact (skipValue_eq opening).trans (by simp [closing])
  | .object ((key, value) :: members) =>
    have opening :
        skipBlanks (spaced gaps (Form.object ((key, value) :: members)).lexemes ++ rest) =
          '\x7b' :: (spaced (fun i => gaps (i + 1))
            (memberLexemes true ((key, value) :: members)) ++ rest) :=
      Json.skipBlanks_spaced rfl ..
    -- Behind the brace is the quote of the first key.
    obtain ⟨beforeColon, beforeValue, later, text⟩ :=
      spaced_memberLexemes true (fun i => gaps (i + 1)) key value members
    simp only [if_true, List.nil_append] at text
    rw [text, List.append_assoc, List.append_assoc, List.append_assoc] at opening
    rw [skipValue_eq opening, if_neg (by decide), if_pos rfl, skipBlanks_key]
    simp only [show '"' ≠ '\x7d' by decide, if_false]
    rw [skipKey_text, skipValue_form value _ _ (stops_memberLexemes members later rest),
      skipAfter_members members frames later rest]
  | .null | .bool _ | .number _ | .string _ => exact skipValue_flat rfl frames gaps stops

/-- The items of a list are passed over behind the first one, up to and with its end. -/
theorem skipAfter_items (items : List Form) (frames : List Frame) (gaps : Nat → List Blank)
    (rest : List Char) :
    skipAfter (.list :: frames) (spaced gaps (itemLexemes false items) ++ rest) =
      skipAfter frames rest := by
  -- Behind an item there is the end of the list, or a comma and the next item.
  match items with
  | [] =>
    have blanks : skipBlanks (spaced gaps [[']']] ++ rest) = ']' :: rest :=
      Json.skipBlanks_spaced rfl ..
    exact (skipAfter_list_eq blanks).trans (by simp)
  | item :: items =>
    -- The comma stands in front of the next item.
    have blanks : skipBlanks (spaced gaps (itemLexemes false (item :: items)) ++ rest) =
        ',' :: (spaced (fun i => gaps (i + 1)) (item.lexemes ++ itemLexemes false items) ++ rest) :=
      Json.skipBlanks_spaced rfl ..
    rw [spaced_append, List.append_assoc] at blanks
    rw [skipAfter_list_eq blanks, if_pos rfl,
      skipValue_form item _ _ (stops_itemLexemes items _ rest), skipAfter_items items frames _ rest]

/-- The members of an object are passed over behind the first one, up to and with its end. -/
theorem skipAfter_members (members : List (StringForm × Form)) (frames : List Frame)
    (gaps : Nat → List Blank) (rest : List Char) :
    skipAfter (.object :: frames) (spaced gaps (memberLexemes false members) ++ rest) =
      skipAfter frames rest := by
  -- Behind a member there is the end of the object, or a comma and the next key.
  match members with
  | [] =>
    have blanks : skipBlanks (spaced gaps [['\x7d']] ++ rest) = '\x7d' :: rest :=
      Json.skipBlanks_spaced rfl ..
    exact (skipAfter_object_eq blanks).trans (by simp)
  | (key, value) :: members =>
    obtain ⟨beforeColon, beforeValue, later, text⟩ :=
      spaced_memberLexemes false gaps key value members
    rw [text, List.append_assoc, List.append_assoc, List.append_assoc]
    -- All that stands behind the key is left alone while the key is passed over.
    generalize behind : spaced beforeColon [[':']] ++ (spaced beforeValue value.lexemes ++
      (spaced later (memberLexemes false members) ++ rest)) = tail
    have blanks : skipBlanks (spaced gaps ([','] :: [key.text]) ++ tail) =
        ',' :: (spaced (fun i => gaps (i + 1)) [key.text] ++ tail) := Json.skipBlanks_spaced rfl ..
    simp only [Bool.false_eq_true, if_false, List.cons_append, List.nil_append]
    rw [skipAfter_object_eq blanks, if_pos rfl, ← behind, skipKey_text,
      skipValue_form value _ _ (stops_memberLexemes members later rest),
      skipAfter_members members frames later rest]

end

end Form

/-- Any text of a value is taken for something to pass over. -/
theorem takes_skip (form : Form) : skip.TakesForm form () := by
  intro gaps rest stops
  have skipped := form.skipValue_form [] gaps stops
  rw [skipAfter] at skipped
  -- The text of a form has a character at least, so that less is left behind it.
  obtain ⟨c, lexeme, lexemes, front, _⟩ := form.lexemes_eq_cons
  have shorter : rest.length < (spaced gaps form.lexemes ++ rest).length := by
    rw [front]
    simp only [spaced, List.length_append, List.length_cons]
    omega
  exact ⟨shorter, by simp only [skip, skipped, shorter, dif_pos]⟩

end Manuscript.Json
