import Manuscript.Proofs.Json.Takes
import Manuscript.Token.Attributes

/-!
JSON values are read from each of their texts, as long as these are not nested too deeply, and any
text of a value is passed over.
-/

namespace Manuscript.Json

namespace Reader

variable {α β : Type} {reader : Reader α} {text : List Char} {form : Form}

/-- A result is changed afterwards. -/
theorem Takes.map {value : α} (taken : reader.Takes text value) (change : α → β) :
    (Reader.map change reader).Takes text (change value) := by
  intro rest stops
  obtain ⟨shorter, read⟩ := taken rest stops
  exact ⟨shorter, by simp only [Reader.map, read]⟩

/-- A result that is changed is taken with any blanks. -/
theorem TakesForm.map {value : α} (taken : reader.TakesForm form value) (change : α → β) :
    (Reader.map change reader).TakesForm form (change value) :=
  fun gaps => (taken gaps).map change

/-- Behind blanks a reader reads what it reads where they end. -/
theorem behindBlanks_eq {value : α} {start rest : List Char} (blanks : skipBlanks text = start)
    {shorter : rest.length < start.length} (read : reader start = .ok ⟨value, rest, shorter⟩) :
    ∃ shorter, Reader.behindBlanks reader text = .ok ⟨value, rest, shorter⟩ := by
  -- The blanks only make the text shorter, so that what is left is shorter still.
  subst blanks
  exact ⟨Nat.lt_of_lt_of_le shorter (skipBlanks_length_le text),
    by simp only [Reader.behindBlanks, read]⟩

/-- Behind blanks a form is taken that is taken without blanks in front. -/
theorem takesForm_behindBlanks {value : α}
    (taken : ∀ gaps, reader.Takes (spaced (tight gaps) form.lexemes) value) :
    (Reader.behindBlanks reader).TakesForm form value := by
  intro gaps rest stops
  obtain ⟨shorter, read⟩ := taken gaps rest stops
  -- The value is read where its own text starts.
  exact behindBlanks_eq (form.skipBlanks_spaced gaps rest) read

end Reader

/-- A text that stands for itself is the only lexeme of its form. -/
theorem spaced_tight_singleton (gaps : Nat → List Blank) (text : List Char) :
    spaced (tight gaps) [text] = text := by
  simp only [spaced, tight, gapText, List.map_nil, List.nil_append, List.append_nil]

/-- A word is read when it comes next. -/
theorem readWord_append (word rest : List Char) : readWord word (word ++ rest) = .ok rest := by
  induction word with
  | nil => rfl
  | cons c word ih => rw [List.cons_append, readWord, if_pos rfl, ih]

/-- A word is taken behind its first character. -/
theorem takes_readWordAs {α : Type} (c : Char) (word : String) (value : α) :
    (readWordAs word value).Takes (c :: word.toList) value := by
  intro rest _
  -- The reader says that less is left, and that is known from reading the word by itself.
  have read := readWord_append word.toList rest
  refine ⟨Nat.lt_succ_of_le (readWord_length_le read), ?_⟩
  simp only [List.cons_append, readWordAs]
  split
  · rename_i fault failed
    rw [read] at failed
    cases failed
  · rename_i after found
    rw [read] at found
    cases found
    rfl

/-- A string is taken for what it means. -/
theorem takes_readString {form : StringForm} {s : String} (means : form.Means s) :
    readString.Takes form.text s := by
  intro rest _
  -- What is inside of the quotes is read by the time the closing one is met.
  have read := readStringTail_inside means rest
  have text : form.text ++ rest = '"' :: (form.inside ++ '"' :: rest) := by
    rw [StringForm.text, List.cons_append, List.append_assoc, List.singleton_append]
  rw [text]
  refine ⟨Nat.lt_succ_of_lt (readStringTail_shorter read), ?_⟩
  simp only [readString]
  split
  · -- The quote was found, so that there is no fault.
    rename_i fault failed
    rw [read] at failed
    cases failed
  · rename_i chars after found
    rw [read] at found
    cases found
    simp only [String.ofList_toList]

/-- A number is read behind its sign. -/
theorem readSigned_negative {n : Number} {text rest : List Char}
    (read : readNumber true text = .ok (n, rest)) :
    ∃ shorter, readSigned ('-' :: text) = .ok ⟨n, rest, shorter⟩ := by
  -- What is left behind the number is shorter, by the sign as well.
  refine ⟨Nat.lt_succ_of_lt (readNumber_shorter read), ?_⟩
  simp only [readSigned, if_true]
  split
  · rename_i fault failed
    rw [read] at failed
    cases failed
  · rename_i number after found
    rw [read] at found
    cases found
    rfl

/-- A number without a sign is read at once. -/
theorem readSigned_natural {n : Number} {c : Char} {text rest : List Char} (unsigned : c ≠ '-')
    (read : readNumber false (c :: text) = .ok (n, rest)) :
    ∃ shorter, readSigned (c :: text) = .ok ⟨n, rest, shorter⟩ := by
  refine ⟨readNumber_shorter read, ?_⟩
  -- Without a sign the number is read as it is.
  simp only [readSigned, unsigned, if_false]
  split
  · rename_i fault failed
    rw [read] at failed
    cases failed
  · rename_i number after found
    rw [read] at found
    cases found
    rfl

/-- A numeral without a sign is taken for the number that its digits are read as. -/
theorem takes_readSigned_digits {n : Nat} {number : Number}
    (read : ∀ rest, Stops rest →
      readNumber false (Nat.toDigits 10 n ++ rest) = .ok (number, rest)) :
    readSigned.Takes (Nat.toDigits 10 n) number := by
  intro rest stops
  have read := read rest stops
  -- The numeral starts with a digit, which is no sign.
  obtain ⟨c, tail, text, digit, _⟩ :=
    toDigits_append_eq_cons n fun c next => (stops c next).1
  rw [text] at read ⊢
  refine readSigned_natural ?_ read
  rintro rfl
  cases digit

/-- The numeral of an integer of 64 bits is taken for it. -/
theorem takes_readSigned {form : NumberForm} {n : Number} (spells : form.Spells n) :
    readSigned.Takes form.text n := by
  intro rest stops
  -- A natural number has no sign, and a negative one is read from the digits behind it.
  cases n with
  | natural n =>
    obtain ⟨rfl, small⟩ := spells
    have whole : NumberForm.text { whole := n } = Nat.toDigits 10 n := List.append_nil _
    rw [whole]
    exact takes_readSigned_digits
      (fun _ stops => readNumber_toDigits false (Nat.le_of_lt_succ small) stops) rest stops
  | negative size =>
    obtain ⟨rfl, pos, small⟩ := spells
    have signed : NumberForm.text { isNegative := true, whole := size } =
        '-' :: Nat.toDigits 10 size := congrArg (List.cons '-') (List.append_nil _)
    -- The digits of a negative number of 64 bits are never too many.
    have fits : size ≤ greatestNatural := by
      unfold greatestNatural
      omega
    have read := readNumber_toDigits true fits stops
    have negative : integerOf true size = .negative size := by
      rw [integerOf, if_neg (by decide), if_neg (by omega)]
    rw [signed]
    rw [negative] at read
    exact readSigned_negative read
  | float isNegative size => cases spells

/-- Members inserted one after another. -/
def insertAll (written members : List (String × Value)) : List (String × Value) :=
  written.foldl (fun members entry => insertMember entry.1 entry.2 members) members

/-- A member with a new key only adds to the others. -/
theorem insertMember_perm {key : String} {value : Value} {members : List (String × Value)}
    (fresh : ∀ entry ∈ members, entry.1 ≠ key) :
    (insertMember key value members).Perm ((key, value) :: members) := by
  -- The member goes in front of the first greater key, and nothing is taken out on the way.
  induction members with
  | nil => exact .refl _
  | cons head rest ih =>
    have ⟨other, others⟩ := List.forall_mem_cons.mp fresh
    simp only [insertMember]
    split
    · exact .refl _
    · rw [if_neg (Ne.symm other)]
      exact ((ih others).cons head).trans (.swap ..)

/-- Members with keys of their own only add to each other. -/
theorem insertAll_perm {written members : List (String × Value)}
    (distinct : (written ++ members).Pairwise fun a b => a.1 ≠ b.1) :
    (insertAll written members).Perm (written ++ members) := by
  induction written generalizing members with
  | nil => exact .refl _
  | cons head written ih =>
    have ⟨other, _⟩ := List.pairwise_cons.mp distinct
    -- No other member has the key of the first one, neither a later one nor one that is there.
    have inserted : (insertMember head.1 head.2 members).Perm (head :: members) :=
      insertMember_perm fun entry found => (other entry (List.mem_append_right _ found)).symm
    have moved : (written ++ insertMember head.1 head.2 members).Perm
        (head :: (written ++ members)) :=
      (inserted.append_left written).trans List.perm_middle
    exact (ih (distinct.perm moved.symm fun apart => apart.symm)).trans moved

/-- Members that are inserted stand in the order of their keys. -/
theorem ordered_insertAll (written : List (String × Value)) {members : List (String × Value)}
    (ordered : members.Pairwise fun a b => a.1 < b.1) :
    (insertAll written members).Pairwise fun a b => a.1 < b.1 := by
  -- Each member is put in its place among those that are there.
  induction written generalizing members with
  | nil => exact ordered
  | cons head written ih => exact ih (ordered_insertMember _ _ ordered)

/-- In whatever order members are written, they are put into the order of their keys. -/
theorem insertAll_eq_sorted {sorted written : List (String × Value)}
    (ordered : sorted.Pairwise fun a b => a.1 < b.1) (same : written.Perm sorted) :
    insertAll written [] = sorted := by
  have distinct : (written ++ []).Pairwise fun (a b : String × Value) => a.1 ≠ b.1 := by
    rw [List.append_nil]
    have apart : sorted.Pairwise fun a b => a.1 ≠ b.1 :=
      ordered.imp fun {a b} below (same : a.1 = b.1) => String.lt_irrefl b.1 (same ▸ below)
    exact apart.perm same.symm fun other => other.symm
  have all : (insertAll written []).Perm sorted := by
    have kept := insertAll_perm distinct
    rw [List.append_nil] at kept
    exact kept.trans same
  -- Two lists of the same members are the same when both rise.
  exact all.eq_of_pairwise
    (fun a b _ _ below above => absurd (String.lt_trans below above) (String.lt_irrefl _))
    (ordered_insertAll written .nil) ordered

namespace Form

/-- The reader that a form's first character is for. -/
def readerFor (array object : Reader Value) : Form → Reader Value
  | .null => readWordAs "ull" Value.null
  | .bool true => readWordAs "rue" (Value.bool true)
  | .bool false => readWordAs "alse" (Value.bool false)
  | .number _ => Reader.map Value.number readSigned
  | .string _ => Reader.map Value.string readString
  | .array _ => array
  | .object _ => object

/-- A form is read by the reader that its first character is for. -/
theorem takes_opening {array object : Reader Value} {form : Form} {value : Value}
    {gaps : Nat → List Blank}
    (taken : (form.readerFor array object).Takes (spaced (tight gaps) form.lexemes) value) :
    (readValueWith array object).Takes (spaced (tight gaps) form.lexemes) value := by
  intro rest stops
  obtain ⟨c, more, front, opens⟩ := form.spaced_tight gaps
  -- The first character tells which of the readers is asked.
  have same : readValueWith array object (c :: (more ++ rest)) =
      form.readerFor array object (c :: (more ++ rest)) := by
    rcases form with _ | (_ | _) | number | string | items | members
    -- A number is what is left when none of the other first characters is there.
    case number =>
      have other {d : Char} := ne_of_opens_number (d := d) opens
      have letters : c ≠ 'n' ∧ c ≠ 't' ∧ c ≠ 'f' :=
        ⟨other (by decide), other (by decide), other (by decide)⟩
      have number : c = '-' ∨ c.isDigit = true := opens
      simp only [readValueWith, letters, number, if_false, if_true]
      rfl
    all_goals
      cases opens
      rfl
  have read := taken rest stops
  rw [front, List.cons_append] at read ⊢
  rwa [same]

/-- What is neither a list nor an object is read as the value that it is a text of. -/
theorem takes_scalar {array object : Reader Value} {form : Form} {value : Value}
    (spells : form.Spells value) (flat : form.nesting = 0) (gaps : Nat → List Blank) :
    (readValueWith array object).Takes (spaced (tight gaps) form.lexemes) value := by
  -- Such a form is one lexeme.
  have takes_word {text : List Char} (lexeme : form.lexemes = [text])
      (taken : (form.readerFor array object).Takes text value) :
      (readValueWith array object).Takes (spaced (tight gaps) form.lexemes) value :=
    takes_opening (by rwa [lexeme, spaced_tight_singleton])
  rcases form with _ | (_ | _) | number | string | items | members
  case null =>
    cases spells
    exact takes_word rfl (takes_readWordAs 'n' "ull" Value.null)
  case bool.false =>
    cases spells
    exact takes_word rfl (takes_readWordAs 'f' "alse" (Value.bool false))
  case bool.true =>
    cases spells
    exact takes_word rfl (takes_readWordAs 't' "rue" (Value.bool true))
  case number =>
    obtain ⟨n, rfl, means⟩ := spells
    exact takes_word rfl ((takes_readSigned means).map Value.number)
  case string =>
    obtain ⟨s, rfl, means⟩ := spells
    exact takes_word rfl ((takes_readString means).map Value.string)
  -- A list and an object have something inside of them.
  case array => cases flat
  case object => cases flat

mutual

/-- A value is read from each of its texts. -/
theorem takes_value (form : Form) (value : Value) (depth : Nat) (spells : form.Spells value)
    (bounded : form.nesting ≤ depth) : (readValue depth).TakesForm form value := by
  match form with
  | .array items =>
    obtain ⟨values, rfl, here⟩ := spells
    obtain ⟨inner, rfl⟩ := Nat.exists_eq_succ_of_ne_zero (Nat.ne_zero_of_lt bounded)
    -- Each item is read with one level less.
    have each := takes_items items values inner here (Nat.le_of_succ_le_succ bounded)
    exact Reader.takesForm_behindBlanks fun gaps =>
      takes_opening ((Reader.takes_readList each gaps).map Value.array)
  | .object members =>
    obtain ⟨sorted, written, rfl, ordered, same, here⟩ := spells
    obtain ⟨inner, rfl⟩ := Nat.exists_eq_succ_of_ne_zero (Nat.ne_zero_of_lt bounded)
    have gathers := gathers_members members written inner here
      (Nat.le_of_succ_le_succ bounded) []
    -- The members are put into the order of their keys as they are read.
    rw [insertAll_eq_sorted ordered same] at gathers
    exact Reader.takesForm_behindBlanks fun gaps =>
      takes_opening ((Reader.takes_readObject gathers gaps).map Value.object)
  | .null | .bool _ | .number _ | .string _ =>
    cases depth with
    | zero => exact Reader.takesForm_behindBlanks (takes_scalar spells rfl)
    | succ depth => exact Reader.takesForm_behindBlanks (takes_scalar spells rfl)

/-- The items of a list are read from their texts. -/
theorem takes_items (items : List Form) (values : List Value) (depth : Nat)
    (spells : SpellItems items values) (bounded : itemNesting items ≤ depth) :
    List.Forall₂ (readValue depth).TakesForm items values := by
  -- Item by item, with the values that the texts stand for.
  match items with
  | [] =>
    cases spells
    exact .nil
  | item :: items =>
    obtain ⟨value, others, rfl, here, behind⟩ := spells
    have ⟨first, rest⟩ := Nat.max_le.mp bounded
    exact .cons (takes_value item value depth here first)
      (takes_items items others depth behind rest)

/-- The members of an object are read from their texts. -/
theorem gathers_members (members : List (StringForm × Form)) (written : List (String × Value))
    (depth : Nat) (spells : SpellMembers members written) (bounded : memberNesting members ≤ depth)
    (start : List (String × Value)) :
    Gathers (valueMember (readValue depth)) start members (insertAll written start) := by
  -- Each member is put among those that were gathered before it, and the others behind it.
  match members with
  | [] =>
    cases spells
    exact .nil start
  | (key, form) :: members =>
    obtain ⟨name, value, others, rfl, means, here, behind⟩ := spells
    have ⟨first, rest⟩ := Nat.max_le.mp bounded
    exact .cons means rfl ((takes_value form value depth here first).map _)
      (gathers_members members others depth behind rest _)

end

end Form

end Manuscript.Json
