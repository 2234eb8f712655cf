import Mathlib.Data.List.Forall2
import Manuscript.Proofs.Json.Lexemes

/-!
What readers take. A reader takes a text for a value when it reads the value off the front of every
text that starts so. Which texts a reader takes follows from what the readers take that it is made
of.
-/

namespace Manuscript.Json

/-- Blanks are passed over. -/
theorem skipBlanks_gapText (gap : List Blank) (text : List Char) :
    skipBlanks (gapText gap ++ text) = skipBlanks text := by
  refine List.dropWhile_append_of_pos fun c found => ?_
  obtain ⟨blank, -, rfl⟩ := List.mem_map.mp found
  cases blank <;> rfl

/-- What does not start with a blank stays as it is. -/
theorem skipBlanks_cons {c : Char} (visible : isBlank c = false) (text : List Char) :
    skipBlanks (c :: text) = c :: text :=
  List.dropWhile_cons_of_neg (by simp [visible])

/-- Gaps of which the first one is closed. -/
def tight (gaps : Nat → List Blank) : Nat → List Blank
  | 0 => []
  | i + 1 => gaps (i + 1)

/-- Lexemes can be written in two parts. -/
theorem spaced_append (gaps : Nat → List Blank) (front back : List (List Char)) :
    spaced gaps (front ++ back) =
      spaced gaps front ++ spaced (fun i => gaps (i + front.length)) back := by
  -- The gaps of the second part are those behind the first.
  induction front generalizing gaps with
  | nil => rfl
  | cons lexeme front ih =>
    simp only [List.cons_append, spaced, ih, List.append_assoc, List.length_cons]
    rfl

/-- Passing over blanks closes the first gap. -/
theorem skipBlanks_spaced {c : Char} {lexeme : List Char} (visible : isBlank c = false)
    (gaps : Nat → List Blank) (lexemes : List (List Char)) (rest : List Char) :
    skipBlanks (spaced gaps ((c :: lexeme) :: lexemes) ++ rest) =
      spaced (tight gaps) ((c :: lexeme) :: lexemes) ++ rest := by
  simp only [spaced, List.append_assoc, skipBlanks_gapText]
  -- The lexeme starts with what is no blank.
  exact skipBlanks_cons visible _

/-- A number in front of blanks goes no further. -/
theorem Stops.gap {rest : List Char} (stops : Stops rest) (gap : List Blank) :
    Stops (gapText gap ++ rest) := by
  -- No blank is anything that a number could go on with.
  have blanks : ∀ blank : Blank, blank.char.isDigit = false ∧ blank.char ≠ '.' ∧
      blank.char ≠ 'e' ∧ blank.char ≠ 'E' := by
    rintro (_ | _ | _ | _) <;> decide
  cases gap with
  | nil => exact stops
  | cons blank more =>
    rintro c ⟨⟩
    exact blanks blank

/-- A number in front of a delimiter goes no further, with blanks between them or without. -/
theorem stops_spaced {c : Char} (delimits : c = ',' ∨ c = ']' ∨ c = '\x7d')
    (gaps : Nat → List Blank) (lexemes : List (List Char)) (rest : List Char) :
    Stops (spaced gaps ([c] :: lexemes) ++ rest) := by
  -- None of the delimiters goes on with a number.
  have stops (more : List Char) : Stops (c :: more) := by
    rintro d ⟨⟩
    rcases delimits with rfl | rfl | rfl <;> decide
  simp only [spaced, List.append_assoc]
  exact (stops _).gap (gaps 0)

namespace Form

/-- A number starts with its sign or with a digit. -/
theorem number_text (form : NumberForm) :
    ∃ c text, form.text = c :: text ∧
      (c = '-' ∧ text = Nat.toDigits 10 form.whole ++ form.tail ∨
        c.isDigit = true ∧ c :: text = Nat.toDigits 10 form.whole ++ form.tail) := by
  obtain ⟨isNegative, whole, fraction?, exponent?⟩ := form
  -- The sign is written in front of a negative number only; a numeral is never empty.
  cases isNegative with
  | true => exact ⟨'-', _, rfl, .inl ⟨rfl, rfl⟩⟩
  | false =>
    cases digits : Nat.toDigits 10 whole with
    | nil => exact absurd digits Nat.toDigits_ne_nil
    | cons c more =>
      have digit : c.isDigit = true :=
        Nat.isDigit_of_mem_toDigits (by omega) (by omega) (digits ▸ List.mem_cons_self)
      exact ⟨c, _, by simp only [NumberForm.text, digits]; rfl, .inr ⟨digit, rfl⟩⟩

/-- The characters that a form may start with. -/
def Opens (form : Form) (c : Char) : Prop :=
  match form with
  | .null => c = 'n'
  | .bool true => c = 't'
  | .bool false => c = 'f'
  | .number _ => c = '-' ∨ c.isDigit = true
  | .string _ => c = '"'
  | .array _ => c = '['
  | .object _ => c = '\x7b'

/-- A form starts with its first character. -/
theorem lexemes_eq_cons (form : Form) :
    ∃ c lexeme lexemes, form.lexemes = (c :: lexeme) :: lexemes ∧ form.Opens c := by
  -- All forms but numbers start with a character of their own.
  rcases form with _ | (_ | _) | number | string | items | members
  · exact ⟨_, _, _, rfl, rfl⟩
  · exact ⟨_, _, _, rfl, rfl⟩
  · exact ⟨_, _, _, rfl, rfl⟩
  · obtain ⟨c, text, front, opens⟩ := number_text number
    exact ⟨c, text, [], by rw [lexemes, front], opens.imp And.left And.left⟩
  · exact ⟨_, _, _, rfl, rfl⟩
  · exact ⟨_, _, _, rfl, rfl⟩
  · exact ⟨_, _, _, rfl, rfl⟩

/-- What is neither a sign nor a digit starts no number. -/
theorem ne_of_opens_number {c d : Char} (opens : c = '-' ∨ c.isDigit = true)
    (other : d ≠ '-' ∧ d.isDigit = false) : c ≠ d := by
  rintro rfl
  rcases opens with sign | digit
  · exact other.1 sign
  · exact Bool.false_ne_true (other.2.symm.trans digit)

/-- A form starts with no blank and with no closing bracket, and only null with its letter. -/
theorem Opens.visible {form : Form} {c : Char} (opens : form.Opens c) :
    isBlank c = false ∧ c ≠ ']' ∧ (c = 'n' → form = .null) := by
  rcases form with _ | (_ | _) | number | string | items | members
  -- All forms but numbers start with one character only.
  case number =>
    have other {d : Char} := ne_of_opens_number (d := d) opens
    refine ⟨?_, other (by decide), fun same => absurd same (other (by decide))⟩
    simp only [isBlank, Bool.or_eq_false_iff, decide_eq_false_iff_not]
    exact ⟨⟨⟨other (by decide), other (by decide)⟩, other (by decide)⟩, other (by decide)⟩
  case null =>
    cases opens
    exact ⟨rfl, by decide, fun _ => rfl⟩
  all_goals
    cases opens
    exact ⟨rfl, by decide, nofun⟩

/-- Behind the blanks in front of a form there is its first character. -/
theorem skipBlanks_spaced (form : Form) (gaps : Nat → List Blank) (rest : List Char) :
    skipBlanks (spaced gaps form.lexemes ++ rest) = spaced (tight gaps) form.lexemes ++ rest := by
  obtain ⟨c, lexeme, lexemes, front, opens⟩ := form.lexemes_eq_cons
  rw [front, Json.skipBlanks_spaced opens.visible.1]

/-- Without blanks in front of it a form starts with its first character. -/
theorem spaced_tight (form : Form) (gaps : Nat → List Blank) :
    ∃ c more, spaced (tight gaps) form.lexemes = c :: more ∧ form.Opens c := by
  obtain ⟨c, lexeme, lexemes, front, opens⟩ := form.lexemes_eq_cons
  exact ⟨c, _, by rw [front]; rfl, opens⟩

/-- The text of items is that of the first one in front of that of the others. -/
theorem spaced_itemLexemes (first : Bool) (gaps : Nat → List Blank) (item : Form)
    (items : List Form) :
    ∃ later, spaced gaps (itemLexemes first (item :: items)) =
      spaced gaps ((if first then [] else [[',']]) ++ item.lexemes) ++
        spaced later (itemLexemes false items) := by
  simp only [itemLexemes]
  exact ⟨_, spaced_append ..⟩

/-- The text of members is that of the first key, of a colon and of the first value in front of
that of the others. -/
theorem spaced_memberLexemes (first : Bool) (gaps : Nat → List Blank) (key : StringForm)
    (form : Form) (members : List (StringForm × Form)) :
    ∃ beforeColon beforeValue later, spaced gaps (memberLexemes first ((key, form) :: members)) =
      spaced gaps ((if first then [] else [[',']]) ++ [key.text]) ++
        (spaced beforeColon [[':']] ++ (spaced beforeValue form.lexemes ++
          spaced later (memberLexemes false members))) := by
  -- The members behind the first one are written as if nothing stood before them.
  have lexemes : memberLexemes first ((key, form) :: members) =
      ((if first then [] else [[',']]) ++ [key.text]) ++ ([[':']] ++ (form.lexemes ++
        memberLexemes false members)) := by
    simp only [memberLexemes, List.append_assoc, List.cons_append, List.nil_append]
  rw [lexemes, spaced_append gaps (_ ++ [key.text]), spaced_append _ [[':']],
    spaced_append _ form.lexemes]
  exact ⟨_, _, _, rfl⟩

/-- Behind an item there is a comma or the end of the list. -/
theorem itemLexemes_eq_cons (items : List Form) :
    ∃ c lexemes, itemLexemes false items = [c] :: lexemes ∧ (c = ',' ∨ c = ']') := by
  cases items with
  | nil => exact ⟨_, _, rfl, .inr rfl⟩
  | cons item items => exact ⟨_, _, rfl, .inl rfl⟩

/-- Behind a member there is a comma or the end of the object. -/
theorem memberLexemes_eq_cons (members : List (StringForm × Form)) :
    ∃ c lexemes, memberLexemes false members = [c] :: lexemes ∧ (c = ',' ∨ c = '\x7d') := by
  cases members with
  | nil => exact ⟨_, _, rfl, .inr rfl⟩
  | cons member members => exact ⟨_, _, rfl, .inl rfl⟩

/-- A number in front of the next item or of the end of a list goes no further. -/
theorem stops_itemLexemes (items : List Form) (gaps : Nat → List Blank) (rest : List Char) :
    Stops (spaced gaps (itemLexemes false items) ++ rest) := by
  obtain ⟨c, lexemes, front, delimits⟩ := itemLexemes_eq_cons items
  rw [front]
  exact stops_spaced (delimits.imp_right .inl) gaps lexemes rest

/-- A number in front of the next member or of the end of an object goes no further. -/
theorem stops_memberLexemes (members : List (StringForm × Form)) (gaps : Nat → List Blank)
    (rest : List Char) : Stops (spaced gaps (memberLexemes false members) ++ rest) := by
  obtain ⟨c, lexemes, front, delimits⟩ := memberLexemes_eq_cons members
  rw [front]
  exact stops_spaced (delimits.imp_right .inr) gaps lexemes rest

end Form

/-- A reader takes a text for a value: it reads the value off every text that starts so. -/
def Reader.Takes {α : Type} (reader : Reader α) (text : List Char) (value : α) : Prop :=
  ∀ rest, Stops rest → ∃ shorter, reader (text ++ rest) = .ok ⟨value, rest, shorter⟩

/-- A reader takes a form for a value, with any blanks in it. -/
def Reader.TakesForm {α : Type} (reader : Reader α) (form : Form) (value : α) : Prop :=
  ∀ gaps, reader.Takes (spaced gaps form.lexemes) value

section Lists

variable {α : Type} {item : Reader α}

/-- A bracket closes a list. -/
theorem nextItem_close (first : Bool) {text rest : List Char}
    (blanks : skipBlanks text = ']' :: rest) :
    ∃ shorter, nextItem first text = .ok (.close rest shorter) := by
  unfold nextItem
  split
  · -- There is text left, and it starts with the bracket.
    simp_all
  · rename_i c more seen
    obtain ⟨rfl, rfl⟩ := List.cons.inj (blanks.symm.trans seen)
    exact ⟨skipBlanks_cons_shorter blanks, rfl⟩

/-- The first item of a list starts at once. -/
theorem nextItem_first {text rest : List Char} {c : Char} (blanks : skipBlanks text = c :: rest)
    (notClose : c ≠ ']') : ∃ bound, nextItem true text = .ok (.more (c :: rest) bound) := by
  -- The first character that is no blank is the one that is seen, and it does not close the list.
  unfold nextItem
  split
  · simp_all
  · rename_i d more seen
    obtain ⟨rfl, rfl⟩ := List.cons.inj (blanks.symm.trans seen)
    rw [if_neg notClose]
    exact ⟨length_of_skipBlanks blanks, rfl⟩

/-- Every other item of a list starts behind a comma. -/
theorem nextItem_comma {text rest more : List Char} {d : Char}
    (blanks : skipBlanks text = ',' :: rest) (inner : skipBlanks rest = d :: more)
    (notClose : d ≠ ']') : ∃ bound, nextItem false text = .ok (.more (d :: more) bound) := by
  -- The comma is seen behind some blanks, and the item behind some more.
  unfold nextItem
  split
  · simp_all
  · rename_i c behind seen
    obtain ⟨rfl, rfl⟩ := List.cons.inj (blanks.symm.trans seen)
    simp only [show ',' ≠ ']' by decide, if_false, Bool.false_eq_true, if_true]
    split
    · simp_all
    · rename_i e last found
      obtain ⟨rfl, rfl⟩ := List.cons.inj (inner.symm.trans found)
      rw [if_neg notClose]
      exact ⟨skipBlanks_twice_length_le blanks inner, rfl⟩

/-- An item of a list is found where it starts: the first one at once, every other one behind a
comma. -/
theorem nextItem_form (first : Bool) (form : Form) (gaps : Nat → List Blank) (rest : List Char) :
    ∃ start bound, nextItem first
        (spaced gaps ((if first then [] else [[',']]) ++ form.lexemes) ++ rest) =
      .ok (.more (spaced start form.lexemes ++ rest) bound) := by
  cases first with
  | true =>
    have blanks := form.skipBlanks_spaced gaps rest
    obtain ⟨c, more, front, opens⟩ := form.spaced_tight gaps
    -- The blanks in front of the item are passed over already.
    refine ⟨tight gaps, ?_⟩
    rw [front] at blanks ⊢
    exact nextItem_first blanks opens.visible.2.1
  | false =>
    -- Behind another item a comma comes first, with blanks of its own.
    have comma : skipBlanks (spaced gaps ([','] :: form.lexemes) ++ rest) =
        ',' :: (spaced (fun i => gaps (i + 1)) form.lexemes ++ rest) := skipBlanks_spaced rfl ..
    have blanks := form.skipBlanks_spaced (fun i => gaps (i + 1)) rest
    obtain ⟨c, more, front, opens⟩ := form.spaced_tight fun i => gaps (i + 1)
    refine ⟨tight fun i => gaps (i + 1), ?_⟩
    rw [front] at blanks ⊢
    exact nextItem_comma comma blanks opens.visible.2.1

/-- The items of a list are taken one by one. -/
theorem Reader.takes_readItems {forms : List Form} {values : List α}
    (each : List.Forall₂ item.TakesForm forms values) (first : Bool) (gaps : Nat → List Blank) :
    Reader.Takes (readItems item first) (spaced gaps (Form.itemLexemes first forms)) values := by
  -- The induction is on the items; what is read behind one of them is the list of the others.
  induction each generalizing first gaps with
  | nil =>
    intro rest _
    have blanks : skipBlanks (spaced gaps [[']']] ++ rest) = ']' :: rest :=
      skipBlanks_spaced rfl ..
    obtain ⟨shorter, close⟩ := nextItem_close first blanks
    simp only [Form.itemLexemes]
    refine ⟨shorter, ?_⟩
    rw [readItems]
    simp only [close]
  | @cons form value forms values taken others ih =>
    intro rest stops
    obtain ⟨later, text⟩ := Form.spaced_itemLexemes first gaps form forms
    rw [text, List.append_assoc]
    -- Behind the item stands a delimiter, so that the item is taken whatever it is.
    have stopsItem := Form.stops_itemLexemes forms later rest
    obtain ⟨start, bound, turn⟩ := nextItem_form first form gaps
      (spaced later (Form.itemLexemes false forms) ++ rest)
    obtain ⟨shorter, here⟩ := taken start _ stopsItem
    obtain ⟨last, behind⟩ := ih false later rest stops
    refine ⟨Nat.lt_trans last (Nat.lt_of_lt_of_le shorter bound), ?_⟩
    rw [readItems, turn]
    simp only [here, behind]

/-- A list is taken that is written in brackets. -/
theorem Reader.takes_readList {forms : List Form} {values : List α}
    (each : List.Forall₂ item.TakesForm forms values) (gaps : Nat → List Blank) :
    (readList item).Takes (spaced (tight gaps) (Form.array forms).lexemes) values := by
  intro rest stops
  obtain ⟨shorter, read⟩ := takes_readItems each true (fun i => gaps (i + 1)) rest stops
  refine ⟨Nat.lt_succ_of_lt shorter, ?_⟩
  -- The opening bracket is not looked at again.
  change (readItems item true _).map Read.behind = _
  exact congrArg (Except.map Read.behind) read

end Lists

section Objects

variable {σ : Type} {member : σ → String → Except Cause (Reader σ)}

/-- What is gathered from the members of an object, one after another. -/
inductive Gathers (member : σ → String → Except Cause (Reader σ)) :
    σ → List (StringForm × Form) → σ → Prop
  | nil (state : σ) : Gathers member state [] state
  | cons {state next final : σ} {key : StringForm} {name : String} {form : Form}
      {members : List (StringForm × Form)} {reader : Reader σ} (means : key.Means name)
      (known : member state name = .ok reader) (taken : reader.TakesForm form next)
      (others : Gathers member next members final) :
      Gathers member state ((key, form) :: members) final

/-- A brace closes an object. -/
theorem nextKey_close (first : Bool) {text rest : List Char}
    (blanks : skipBlanks text = '\x7d' :: rest) :
    ∃ shorter, nextKey first text = .ok (.close rest shorter) := by
  unfold nextKey
  split
  · -- There is text left, and it starts with the brace.
    simp_all
  · rename_i c more seen
    obtain ⟨rfl, rfl⟩ := List.cons.inj (blanks.symm.trans seen)
    exact ⟨skipBlanks_cons_shorter blanks, rfl⟩

/-- Behind blanks a key starts with its quote. -/
theorem skipBlanks_key (key : StringForm) (gaps : Nat → List Blank) (rest : List Char) :
    skipBlanks (spaced gaps [key.text] ++ rest) = '"' :: (key.inside ++ '"' :: rest) := by
  rw [StringForm.text, skipBlanks_spaced rfl]
  simp only [tight, spaced, gapText, List.map_nil, List.nil_append, List.cons_append,
    List.append_assoc, List.append_nil]

/-- A key is found behind its quote: the first one at once, every other one behind a comma. -/
theorem nextKey_text (first : Bool) (key : StringForm) (gaps : Nat → List Blank)
    (rest : List Char) :
    ∃ bound, nextKey first
        (spaced gaps ((if first then [] else [[',']]) ++ [key.text]) ++ rest) =
      .ok (.more (key.inside ++ '"' :: rest) bound) := by
  -- The key starts at once, or behind a comma and some more blanks.
  cases first with
  | true =>
    have blanks := skipBlanks_key key gaps rest
    unfold nextKey
    simp only [if_true, List.nil_append]
    split
    · simp_all
    · rename_i c more seen
      obtain ⟨rfl, rfl⟩ := List.cons.inj (blanks.symm.trans seen)
      exact ⟨skipBlanks_cons_length_le seen, rfl⟩
  | false =>
    have comma : skipBlanks (spaced gaps ([','] :: [key.text]) ++ rest) =
        ',' :: (spaced (fun i => gaps (i + 1)) [key.text] ++ rest) := skipBlanks_spaced rfl ..
    have blanks := skipBlanks_key key (fun i => gaps (i + 1)) rest
    unfold nextKey
    simp only [Bool.false_eq_true, if_false, List.cons_append, List.nil_append]
    split
    · simp_all
    · rename_i c behind seen
      obtain ⟨rfl, rfl⟩ := List.cons.inj (comma.symm.trans seen)
      -- The comma is no brace, so that a key has to follow.
      simp only [show ',' ≠ '\x7d' by decide, if_false, if_true]
      split
      · simp_all
      · rename_i d more found
        obtain ⟨rfl, rfl⟩ := List.cons.inj (blanks.symm.trans found)
        exact ⟨skipBlanks_behind_length_le seen found, rfl⟩

/-- A colon stands behind a key. -/
theorem readColon_spaced (gaps : Nat → List Blank) (rest : List Char) :
    ∃ shorter, readColon (spaced gaps [[':']] ++ rest) = .ok ⟨(), rest, shorter⟩ := by
  -- Blanks in front of the colon do not matter.
  have blanks : skipBlanks (spaced gaps [[':']] ++ rest) = ':' :: rest := skipBlanks_spaced rfl ..
  unfold readColon
  split
  · simp_all
  · rename_i c more seen
    obtain ⟨rfl, rfl⟩ := List.cons.inj (blanks.symm.trans seen)
    exact ⟨skipBlanks_cons_shorter blanks, rfl⟩

/-- The members of an object are taken one by one. -/
theorem Reader.takes_readMembers {state final : σ} {members : List (StringForm × Form)}
    (gathers : Gathers member state members final) (first : Bool) (gaps : Nat → List Blank) :
    Reader.Takes (readMembers member state first)
      (spaced gaps (Form.memberLexemes first members)) final := by
  -- The induction is on the members; each of them changes the state that the others start from.
  induction gathers generalizing first gaps with
  | nil state =>
    intro rest _
    have blanks : skipBlanks (spaced gaps [['\x7d']] ++ rest) = '\x7d' :: rest :=
      skipBlanks_spaced rfl ..
    obtain ⟨shorter, close⟩ := nextKey_close first blanks
    simp only [Form.memberLexemes]
    refine ⟨shorter, ?_⟩
    rw [readMembers]
    simp only [close]
  | @cons state next final key name form members reader means known taken others ih =>
    intro rest stops
    obtain ⟨beforeColon, beforeValue, later, text⟩ :=
      Form.spaced_memberLexemes first gaps key form members
    rw [text, List.append_assoc, List.append_assoc, List.append_assoc]
    -- What follows the value cannot be taken for a part of it.
    have stopsValue := Form.stops_memberLexemes members later rest
    obtain ⟨last, behind⟩ := ih false later rest stops
    obtain ⟨shorter, here⟩ := taken beforeValue _ stopsValue
    obtain ⟨colon, separated⟩ := readColon_spaced beforeColon
      (spaced beforeValue form.lexemes ++
        (spaced later (Form.memberLexemes false members) ++ rest))
    obtain ⟨bound, turn⟩ := nextKey_text first key gaps
      (spaced beforeColon [[':']] ++ (spaced beforeValue form.lexemes ++
        (spaced later (Form.memberLexemes false members) ++ rest)))
    have read := readStringTail_inside means (spaced beforeColon [[':']] ++
      (spaced beforeValue form.lexemes ++
        (spaced later (Form.memberLexemes false members) ++ rest)))
    -- The key, the colon, the value and the other members each leave less text.
    have moved := readStringTail_shorter read
    refine ⟨by omega, ?_⟩
    rw [readMembers]
    simp only [turn]
    split
    · -- The key was read, so that there is no fault.
      rename_i fault failed
      rw [read] at failed
      cases failed
    · rename_i chars after found
      rw [read] at found
      cases found
      simp only [String.ofList_toList, known, separated, here, behind]

/-- An object is taken that is written in braces. -/
theorem Reader.takes_readObject {start final : σ} {members : List (StringForm × Form)}
    (gathers : Gathers member start members final) (gaps : Nat → List Blank) :
    (readObject member start).Takes (spaced (tight gaps) (Form.object members).lexemes) final := by
  intro rest stops
  -- Behind the brace the members are read like any others.
  obtain ⟨shorter, read⟩ := takes_readMembers gathers true (fun i => gaps (i + 1)) rest stops
  refine ⟨Nat.lt_succ_of_lt shorter, ?_⟩
  change (readMembers member start true _).map Read.behind = _
  exact congrArg (Except.map Read.behind) read

end Objects

end Manuscript.Json
