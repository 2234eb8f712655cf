import Manuscript.Json.Reader
import Manuscript.Proofs.Json.Written

/-!
The lexical parts of JSON as they are read. However a string is written, it is read as what it
means, and an integer of 64 bits as its value; a string or number of any form is passed over.
-/

namespace Manuscript.Json

/-- A hexadecimal digit is read as its value, in either case. -/
theorem hexValue?_hexDigit {value : Nat} (small : value < 0x10) (isUpper : Bool) :
    hexValue? (hexDigit isUpper value) = some value := by
  have table : ∀ (value : Fin 0x10) (isUpper : Bool),
      hexValue? (hexDigit isUpper value.val) = some value.val := by decide
  exact table ⟨value, small⟩ isUpper

/-- The digits of a code unit are read as the unit. -/
theorem readHex_unitDigits (isUpper : Nat → Bool) {unit : Nat} (small : unit < 0x10000)
    (rest : List Char) : readHex (unitDigits isUpper unit ++ rest) = .ok (unit, rest) := by
  -- Each place gives a digit of its own, and the four of them make up the unit.
  have digit : ∀ size place, hexValue? (hexDigit (isUpper place) (size % 0x10)) =
      some (size % 0x10) := fun size place =>
    hexValue?_hexDigit (Nat.mod_lt _ (by omega)) _
  simp only [unitDigits, List.cons_append, List.nil_append, readHex, digit]
  congr 2
  omega

/-- A character is no half of a pair. -/
theorem not_surrogate (c : Char) :
    isLowSurrogate c.toNat = false ∧ isHighSurrogate c.toNat = false := by
  have valid : c.toNat < 0xd800 ∨ 0xdfff < c.toNat ∧ c.toNat < 0x110000 := c.valid
  simp only [isLowSurrogate, isHighSurrogate, Bool.and_eq_false_iff, decide_eq_false_iff_not]
  omega

/-- A character of the first plane is read from the number of its one code unit. -/
theorem readUnicodeEscape_unit (c : Char) (low : c.toNat < 0x10000) (isUpper : Nat → Bool)
    (rest : List Char) :
    readUnicodeEscape (unitDigits isUpper c.toNat ++ rest) = .ok (c, rest) := by
  -- The number of a character is never that of a half.
  have ⟨notLow, notHigh⟩ := not_surrogate c
  simp only [readUnicodeEscape, readHex_unitDigits isUpper low, notLow, notHigh, Bind.bind,
    Except.bind, Pure.pure, Except.pure, Bool.false_eq_true, if_false, Char.ofNat_toNat]

/-- A character above the first plane is read from the numbers of its two code units. -/
theorem readUnicodeEscape_pair (c : Char) (high : 0x10000 ≤ c.toNat) (isUpper : Nat → Bool)
    (rest : List Char) :
    readUnicodeEscape (unitDigits isUpper (0xd800 + (c.toNat - 0x10000) / 0x400) ++
      unitText (fun i => isUpper (i + 4)) (0xdc00 + (c.toNat - 0x10000) % 0x400) ++ rest) =
      .ok (c, rest) := by
  have valid : c.toNat < 0xd800 ∨ 0xdfff < c.toNat ∧ c.toNat < 0x110000 := c.valid
  -- The halves are in the ranges that the reader tests, and give the number back.
  generalize upper : 0xd800 + (c.toNat - 0x10000) / 0x400 = first
  generalize lower : 0xdc00 + (c.toNat - 0x10000) % 0x400 = second
  have opens : isLowSurrogate first = false ∧ isHighSurrogate first = true := by
    simp only [isLowSurrogate, isHighSurrogate, Bool.and_eq_false_iff, Bool.and_eq_true,
      decide_eq_false_iff_not, decide_eq_true_eq]
    omega
  -- The second half belongs to the range of those that close.
  have closes : isLowSurrogate second = true := by
    simp only [isLowSurrogate, Bool.and_eq_true, decide_eq_true_eq]
    omega
  have whole : 0x10000 + (first - 0xd800) * 0x400 + (second - 0xdc00) = c.toNat := by omega
  simp only [readUnicodeEscape, List.append_assoc,
    readHex_unitDigits isUpper (show first < 0x10000 by omega), opens, Bind.bind, Except.bind,
    Bool.false_eq_true, if_false, if_true, unitText, List.cons_append, readLowHalf,
    readHex_unitDigits _ (show second < 0x10000 by omega), closes, whole, Char.ofNat_toNat,
    Pure.pure, Except.pure]

/-- A letter that is escaped is read as what it means. -/
theorem simpleEscape?_letter (escape : Escape) :
    simpleEscape? escape.letter = some escape.char := by
  cases escape <;> rfl

/-- The letter of an escape opens no numeric one. -/
theorem Escape.letter_ne (escape : Escape) : escape.letter ≠ 'u' := by
  cases escape <;> decide

/-- An escape in a string is read before what is behind it. -/
theorem readStringTail_escape {text rest : List Char} {c : Char}
    (escape : readEscape text = .ok (c, rest)) :
    readStringTail ('\\' :: text) =
      (readStringTail rest).map fun read => (c :: read.1, read.2) := by
  -- Reading goes on behind the escape, so only the branch where it was read is left.
  rw [readStringTail]
  split
  · rename_i fault failed
    rw [escape] at failed
    cases failed
  · rename_i first after read
    rw [escape] at read
    cases read
    cases readStringTail rest <;> rfl

/-- A character of a string is read before what is behind it. -/
theorem readStringTail_text {form : CharForm} {c : Char} (means : form.char? = some c)
    (rest : List Char) :
    readStringTail (form.text ++ rest) =
      (readStringTail rest).map fun read => (c :: read.1, read.2) := by
  cases form with
  | plain d allowed =>
    cases means
    -- Only control characters, quotes and backslashes do not stand for themselves.
    have ⟨printable, noQuote, noBackslash⟩ := allowed
    rw [CharForm.text, List.singleton_append, readStringTail, if_neg (Nat.not_lt.mpr printable)]
    · cases readStringTail rest <;> rfl
    · exact noQuote
    · exact noBackslash
  | short escape =>
    cases means
    refine readStringTail_escape ?_
    -- The letter behind the backslash is none that starts a number.
    have plain := escape.letter_ne
    change readEscape (escape.letter :: rest) = _
    rw [readEscape, simpleEscape?_letter]
    exact plain
  | coded d isUpper =>
    cases means
    simp only [CharForm.text]
    split
    · -- A character is written as one unit or as a pair of them.
      rename_i low
      exact readStringTail_escape (readUnicodeEscape_unit c low isUpper rest)
    · rename_i high
      exact readStringTail_escape
        (readUnicodeEscape_pair c (Nat.not_lt.mp high) isUpper rest)
  | half unit isHalf isUpper => cases means

/-- A string is read up to its closing quote. -/
theorem readStringTail_inside {form : StringForm} {s : String} (means : form.Means s)
    (rest : List Char) :
    readStringTail (form.inside ++ '"' :: rest) = .ok (s.toList, rest) := by
  obtain ⟨chars, rfl⟩ : ∃ chars, s = String.ofList chars := ⟨s.toList, s.ofList_toList.symm⟩
  simp only [StringForm.Means, String.toList_ofList] at means ⊢
  -- The characters of the form and those of the string are used up together.
  induction form generalizing chars with
  | nil =>
    cases chars with
    -- Behind the last character the quote ends the string.
    | nil => rw [StringForm.inside, List.flatMap_nil, List.nil_append, readStringTail]
    | cons c chars => cases means
  | cons first form ih =>
    cases chars with
    | nil => cases means
    | cons c chars =>
      obtain ⟨here, others⟩ := List.cons.inj means
      rw [StringForm.inside, List.flatMap_cons, List.append_assoc, readStringTail_text here,
        ← StringForm.inside, ih chars others]
      rfl

/-- A numeric escape is passed over, whatever its unit is. -/
theorem skipStringTail_unitText (isUpper : Nat → Bool) {unit : Nat} (small : unit < 0x10000)
    (rest : List Char) :
    skipStringTail (unitText isUpper unit ++ rest) = skipStringTail rest := by
  -- The four digits of the unit are all that is looked at, so any unit will do.
  have hex := readHex_unitDigits isUpper small rest
  rw [unitText, List.cons_append, List.cons_append, skipStringTail]
  split
  · rename_i fault failed
    rw [hex] at failed
    cases failed
  · rename_i other after read
    rw [hex] at read
    cases read
    rfl

/-- A character of a string is passed over, also when it is only half of one. -/
theorem skipStringTail_text (form : CharForm) (rest : List Char) :
    skipStringTail (form.text ++ rest) = skipStringTail rest := by
  -- A character that is written plainly is none of those that end or escape something.
  cases form with
  | plain c allowed =>
    have ⟨printable, noQuote, noBackslash⟩ := allowed
    rw [CharForm.text, List.singleton_append, skipStringTail, if_neg (Nat.not_lt.mpr printable)]
    all_goals grind
  | short escape =>
    have plain := escape.letter_ne
    change skipStringTail ('\\' :: escape.letter :: rest) = _
    rw [skipStringTail, if_pos (by rw [simpleEscape?_letter]; rfl)]
    exact plain
  | coded c isUpper =>
    have valid : c.toNat < 0xd800 ∨ 0xdfff < c.toNat ∧ c.toNat < 0x110000 := c.valid
    simp only [CharForm.text]
    -- A character beyond the first plane is written as two units, and both are passed over.
    split
    · rename_i low
      exact skipStringTail_unitText isUpper low rest
    · rw [List.append_assoc, skipStringTail_unitText isUpper (by omega),
        skipStringTail_unitText _ (by omega)]
  | half unit isHalf isUpper => exact skipStringTail_unitText isUpper (by omega) rest

/-- A string is passed over up to its closing quote. -/
theorem skipStringTail_inside (form : StringForm) (rest : List Char) :
    skipStringTail (form.inside ++ '"' :: rest) = .ok rest := by
  -- Each form of a character is passed over as a whole.
  induction form with
  | nil => rw [StringForm.inside, List.flatMap_nil, List.nil_append, skipStringTail]
  | cons first form ih =>
    rw [StringForm.inside, List.flatMap_cons, List.append_assoc, skipStringTail_text,
      ← StringForm.inside, ih]

/-- Text in which a number that stands in front of it does not go on. -/
def Stops (rest : List Char) : Prop :=
  ∀ c ∈ rest.head?, c.isDigit = false ∧ c ≠ '.' ∧ c ≠ 'e' ∧ c ≠ 'E'

/-- Digits are passed over up to what is none. -/
theorem skipDigits_append {digits rest : List Char} (all : ∀ c ∈ digits, c.isDigit = true)
    (stops : ∀ c ∈ rest.head?, c.isDigit = false) : skipDigits (digits ++ rest) = rest := by
  rw [skipDigits, List.dropWhile_append_of_pos all]
  -- The digits end with the text or at what is none.
  cases rest with
  | nil => rfl
  | cons c rest => rw [List.dropWhile_cons_of_neg (by simp [stops c rfl])]

/-- The text of digits is made of digits. -/
theorem Digits.text_digits (digits : Digits) : ∀ c ∈ digits.text, c.isDigit = true := by
  -- There are ten digits, so that a table settles it.
  have table : ∀ digit : Fin 10, digit.val.digitChar.isDigit = true := by decide
  intro c found
  obtain ⟨digit, -, rfl⟩ := List.mem_map.mp found
  exact table digit

/-- The first of digits is one. -/
theorem Digits.text_eq_cons (digits : Digits) :
    ∃ c more, digits.text = c :: more ∧ c.isDigit = true :=
  ⟨_, _, rfl, digits.text_digits _ List.mem_cons_self⟩

/-- Digits are pushed one by one, as long as the number that they make fits. -/
theorem pushDigits_append {rest : List Char} (stops : ∀ c ∈ rest.head?, c.isDigit = false)
    (digits : List Char) (all : ∀ c ∈ digits, c.isDigit = true) (start : Nat)
    (fits : Nat.ofDigitChars 10 digits start ≤ greatestNatural) :
    pushDigits start (digits ++ rest) =
      (Nat.ofDigitChars 10 digits start, digits.length, rest) := by
  induction digits generalizing start with
  | nil =>
    cases rest with
    | nil => rfl
    -- Without a digit in front nothing more is pushed.
    | cons c rest => simp [pushDigits, stops c rfl, Nat.ofDigitChars]
  | cons c digits ih =>
    obtain ⟨digit, others⟩ := List.forall_mem_cons.mp all
    rw [Nat.ofDigitChars_cons, Nat.mul_comm 10] at fits ⊢
    -- What is pushed later only adds to the number.
    have below : Nat.ofDigitChars 10 digits (start * 10 + (c.toNat - '0'.toNat)) =
        10 ^ digits.length * (start * 10 + (c.toNat - '0'.toNat)) +
          Nat.ofDigitChars 10 digits 0 := Nat.ofDigitChars_eq_ofDigitChars_zero
    have grows : start * 10 + (c.toNat - '0'.toNat) ≤
        10 ^ digits.length * (start * 10 + (c.toNat - '0'.toNat)) :=
      Nat.le_mul_of_pos_left _ (Nat.pow_pos (by omega))
    have fitting : start * 10 + (c.toNat - '0'.toNat) ≤ greatestNatural := by omega
    simp only [List.cons_append, pushDigits, digit, fitting, decide_true, Bool.and_self, if_true,
      ih others _ fits, List.length_cons]

/-- The numeral of a number that is not zero does not start with a zero. -/
theorem toDigits_eq_cons {n : Nat} (pos : 0 < n) :
    ∃ c tail, Nat.toDigits 10 n = c :: tail ∧ c ≠ '0' := by
  -- The first digit is that of the number without its last digit, as long as there are two.
  induction n using Nat.strongRecOn with
  | ind n ih =>
    by_cases small : n < 10
    · have table : ∀ digit : Fin 10, 0 < digit.val → digit.val.digitChar ≠ '0' := by decide
      exact ⟨_, [], Nat.toDigits_of_lt_base small, table ⟨n, small⟩ pos⟩
    · obtain ⟨c, tail, front, other⟩ := ih (n / 10) (by omega) (by omega)
      exact ⟨c, _, by rw [Nat.toDigits_of_base_le (by omega) (by omega), front]; rfl, other⟩

/-- A numeral starts with a digit, and with a zero only if it is alone. -/
theorem toDigits_append_eq_cons (n : Nat) {rest : List Char}
    (stops : ∀ c ∈ rest.head?, c.isDigit = false) :
    ∃ c tail, Nat.toDigits 10 n ++ rest = c :: tail ∧ c.isDigit = true ∧
      ¬(c = '0' ∧ tail.head?.any Char.isDigit = true) := by
  -- Zero is a numeral of its own; behind it there is no digit, or it would not stop there.
  rcases Nat.eq_zero_or_pos n with rfl | pos
  · refine ⟨'0', rest, rfl, rfl, fun ⟨_, more⟩ => ?_⟩
    cases rest with
    | nil => cases more
    | cons c rest => exact absurd more (by simp [stops c rfl])
  · obtain ⟨c, tail, front, other⟩ := toDigits_eq_cons pos
    have digit : c.isDigit = true :=
      Nat.isDigit_of_mem_toDigits (by omega) (by omega) (front ▸ List.mem_cons_self)
    exact ⟨c, tail ++ rest, by rw [front]; rfl, digit, fun zero => other zero.1⟩

/-- The numeral of a number of 64 bits is read as the number. -/
theorem pushDigits_toDigits {n : Nat} (small : n ≤ greatestNatural) {rest : List Char}
    (stops : ∀ c ∈ rest.head?, c.isDigit = false) :
    pushDigits 0 (Nat.toDigits 10 n ++ rest) = (n, (Nat.toDigits 10 n).length, rest) := by
  have all : ∀ c ∈ Nat.toDigits 10 n, c.isDigit = true := fun c =>
    Nat.isDigit_of_mem_toDigits (by omega) (by omega)
  -- The digits of a number mean the number.
  have meant : Nat.ofDigitChars 10 (Nat.toDigits 10 n) 0 = n := Nat.ofDigitChars_ten_toDigits
  rw [pushDigits_append stops _ all 0 (by rwa [meant]), meant]

/-- Where a number does not go on, an integer ends; with digits that were left out it is a float. -/
theorem readNumberTail_of_stops (isNegative : Bool) (n dropped : Nat) {rest : List Char}
    (stops : Stops rest) :
    readNumberTail isNegative n dropped rest =
      if dropped = 0 then .ok (integerOf isNegative n, rest)
      else readFloat isNegative n dropped rest := by
  -- The point and the two letters are what would go on with the number.
  unfold readNumberTail
  split
  · exact absurd rfl (stops '.' rfl).2.1
  · exact absurd rfl (stops 'e' rfl).2.2.1
  · exact absurd rfl (stops 'E' rfl).2.2.2
  · rfl

/-- A numeral is read as its front, as far as digits were pushed, and the number of its other digits. -/
theorem readNumber_of_pushed (isNegative : Bool) {n kept count : Nat} {dropped rest : List Char}
    (pushed : pushDigits 0 (Nat.toDigits 10 n ++ rest) = (kept, count, dropped ++ rest))
    (all : ∀ c ∈ dropped, c.isDigit = true) (stops : Stops rest) :
    readNumber isNegative (Nat.toDigits 10 n ++ rest) =
      if dropped.length = 0 then .ok (integerOf isNegative kept, rest)
      else readFloat isNegative kept dropped.length rest := by
  have ends : ∀ c ∈ rest.head?, c.isDigit = false := fun c next => (stops c next).1
  -- A number starts with a digit, and a zero stands by itself.
  obtain ⟨c, tail, text, digit, alone⟩ := toDigits_append_eq_cons n ends
  rw [text] at pushed ⊢
  -- Behind the digits there is nothing that a number goes on with.
  have taken : (dropped ++ rest).takeWhile Char.isDigit = dropped := by
    rw [List.takeWhile_append_of_pos all, List.append_right_eq_self]
    cases rest with
    | nil => rfl
    | cons d rest => exact List.takeWhile_cons_of_neg (by simp [ends d rfl])
  have skipped : skipDigits (dropped ++ rest) = rest := skipDigits_append all ends
  simp only [readNumber, digit, Bool.not_true, Bool.false_eq_true, if_false, alone, pushed, taken,
    skipped]
  exact readNumberTail_of_stops isNegative kept dropped.length stops

/-- The numeral of an integer of 64 bits is read behind its sign. -/
theorem readNumber_toDigits (isNegative : Bool) {n : Nat} (small : n ≤ greatestNatural)
    {rest : List Char} (stops : Stops rest) :
    readNumber isNegative (Nat.toDigits 10 n ++ rest) = .ok (integerOf isNegative n, rest) := by
  have nothing : ∀ c ∈ ([] : List Char), c.isDigit = true := nofun
  -- All digits fit, so that none is dropped.
  exact readNumber_of_pushed isNegative
    (pushDigits_toDigits small fun c next => (stops c next).1) nothing stops

/-- Where a number does not go on, no exponent follows. -/
theorem skipOptionalExponent_of_stops {rest : List Char} (stops : Stops rest) :
    skipOptionalExponent rest = .ok rest := by
  unfold skipOptionalExponent
  split
  · -- A number does not go on with the letter of an exponent where it stops.
    exact absurd rfl (stops 'e' rfl).2.2.1
  · exact absurd rfl (stops 'E' rfl).2.2.2
  · rfl

/-- The digits of an exponent are passed over, with its sign or without. -/
theorem skipExponent_append (isNegative? : Option Bool) (digits : Digits) {rest : List Char}
    (stops : Stops rest) :
    skipExponent ((isNegative?.elim [] fun isNegative => [if isNegative then '-' else '+']) ++
      (digits.text ++ rest)) = .ok rest := by
  obtain ⟨c, more, front, digit⟩ := digits.text_eq_cons
  -- Of the digits at least one is needed, and all are taken.
  have taken : skipExponentDigits (digits.text ++ rest) = .ok rest := by
    have skipped := skipDigits_append digits.text_digits fun c next => (stops c next).1
    rw [front, List.cons_append] at skipped ⊢
    simp only [skipExponentDigits, digit, if_true, skipped]
  rcases isNegative? with _ | _ | _
  · -- A digit is no sign.
    change skipExponent (digits.text ++ rest) = _
    rw [← taken, front, List.cons_append]
    unfold skipExponent
    split
    · rename_i same
      exact absurd digit (by rw [(List.cons.inj same).1]; decide)
    · rename_i same
      exact absurd digit (by rw [(List.cons.inj same).1]; decide)
    · rfl
  · exact taken
  · exact taken

/-- An exponent is passed over. -/
theorem skipOptionalExponent_append (exponent : ExponentForm) {rest : List Char}
    (stops : Stops rest) : skipOptionalExponent (exponent.text ++ rest) = .ok rest := by
  -- The letter may be of either case, which makes no difference behind it.
  have taken := skipExponent_append exponent.isNegative? exponent.digits stops
  obtain ⟨isUpper, isNegative?, digits⟩ := exponent
  rw [ExponentForm.text, List.cons_append, List.append_assoc]
  cases isUpper
  · exact taken
  · exact taken

/-- An exponent is passed over, or none is there. -/
theorem skipOptionalExponent_elim (exponent? : Option ExponentForm) {rest : List Char}
    (stops : Stops rest) :
    skipOptionalExponent (exponent?.elim [] ExponentForm.text ++ rest) = .ok rest := by
  -- An exponent is read over with its sign, and where there is none the rest stays.
  cases exponent? with
  | none => exact skipOptionalExponent_of_stops stops
  | some exponent => exact skipOptionalExponent_append exponent stops

/-- Behind the digits of a number there is an exponent or none, but no digit. -/
theorem exponent_head (exponent? : Option ExponentForm) {rest : List Char} (stops : Stops rest) :
    ∀ c ∈ (exponent?.elim [] ExponentForm.text ++ rest).head?, c.isDigit = false ∧ c ≠ '.' := by
  intro c next
  -- With an exponent its letter comes next, and without one what stops the number.
  cases exponent? with
  | none => exact ⟨(stops c next).1, (stops c next).2.1⟩
  | some exponent =>
    have letters : ∀ isUpper : Bool, (if isUpper then 'E' else 'e').isDigit = false ∧
        (if isUpper then 'E' else 'e') ≠ '.' := by decide
    cases next
    exact letters exponent.isUpper

/-- A number is passed over behind its sign, whatever it is. -/
theorem skipNumber_append (form : NumberForm) {rest : List Char} (stops : Stops rest) :
    skipNumber (Nat.toDigits 10 form.whole ++ (form.tail ++ rest)) = .ok rest := by
  obtain ⟨isNegative, whole, fraction?, exponent?⟩ := form
  have ends := exponent_head exponent? stops
  have taken := skipOptionalExponent_elim exponent? stops
  simp only [NumberForm.tail, List.append_assoc]
  generalize exponent?.elim [] ExponentForm.text ++ rest = behind at ends taken
  -- The whole part is digits only.
  have all : ∀ c ∈ Nat.toDigits 10 whole, c.isDigit = true := fun c =>
    Nat.isDigit_of_mem_toDigits (by omega) (by omega)
  cases fraction? with
  | none =>
    -- The digits end where the exponent or the rest starts.
    have skipped := skipDigits_append all fun c next => (ends c next).1
    obtain ⟨c, tail, text, digit, alone⟩ :=
      toDigits_append_eq_cons whole fun c next => (ends c next).1
    simp only [Option.elim_none, List.nil_append]
    rw [text] at skipped ⊢
    simp only [skipNumber, digit, Bool.not_true, Bool.false_eq_true, if_false, alone, skipped]
    split
    · exact absurd rfl (ends '.' rfl).2
    · exact taken
  | some digits =>
    -- The first digits end at the point, the others where the exponent or the rest starts.
    have ends' : ∀ c ∈ ('.' :: (digits.text ++ behind)).head?, c.isDigit = false := by
      rintro c ⟨⟩
      rfl
    have skipped := skipDigits_append all ends'
    obtain ⟨c, tail, text, digit, alone⟩ := toDigits_append_eq_cons whole ends'
    obtain ⟨d, more, front, first⟩ := digits.text_eq_cons
    have fraction := skipDigits_append digits.text_digits fun c next => (ends c next).1
    simp only [Option.elim_some, List.cons_append]
    rw [text] at skipped ⊢
    simp only [skipNumber, digit, Bool.not_true, Bool.false_eq_true, if_false, alone, skipped,
      skipFraction, fraction, taken, ite_eq_left_iff]
    simp [front, first]

end Manuscript.Json
