import Manuscript.Proofs.Json.Values
import Manuscript.Proofs.Number.Rounding

/-!
Whole numbers without a sign as they are read. One of 64 bits is read as itself. Of a longer one the
first digits are kept and scaled by a power of ten, which gives a float that is near it.
-/

namespace Manuscript.Json

open Manuscript.Double

/-- A number is what a whole number is read as: itself, or a float near it if 64 bits do not do. -/
def Number.Reads (n : Nat) : Number → Prop
  | .natural m => m = n ∧ n ≤ greatestNatural
  | .negative _ => False
  | .float isNegative size => isNegative = false ∧ greatestNatural < n ∧ Near 4 n size.value

/-- A digit stands for less than ten. -/
theorem toNat_sub_of_isDigit {c : Char} (digit : c.isDigit = true) : c.toNat - '0'.toNat < 10 := by
  have upper : c.toNat ≤ '9'.toNat := (Char.isDigit_iff_toNat.mp digit).2
  have zero : '0'.toNat = 48 := rfl
  have nine : '9'.toNat = 57 := rfl
  omega

/-- So many digits stand for less than the power of ten. -/
theorem ofDigitChars_lt {digits : List Char} (all : ∀ c ∈ digits, c.isDigit = true) :
    Nat.ofDigitChars 10 digits 0 < 10 ^ digits.length := by
  induction digits with
  | nil => exact Nat.one_pos
  | cons c digits ih =>
    -- A digit in front counts for at most nine times what its place is worth.
    obtain ⟨digit, others⟩ := List.forall_mem_cons.mp all
    have below := ih others
    have first := toNat_sub_of_isDigit digit
    rw [Nat.ofDigitChars_cons, Nat.ofDigitChars_eq_ofDigitChars_zero, List.length_cons, Nat.pow_succ,
      Nat.mul_zero, Nat.zero_add]
    calc 10 ^ digits.length * (c.toNat - '0'.toNat) + Nat.ofDigitChars 10 digits 0
      _ < 10 ^ digits.length * (c.toNat - '0'.toNat) + 10 ^ digits.length := by omega
      _ = 10 ^ digits.length * (c.toNat - '0'.toNat + 1) := (Nat.mul_succ ..).symm
      _ ≤ 10 ^ digits.length * 10 := Nat.mul_le_mul_left _ first

/--
Digits are pushed as long as the number that they make fits; the first of those that are left does
not fit any more.
-/
theorem exists_pushDigits {digits : List Char} (all : ∀ c ∈ digits, c.isDigit = true) {start : Nat}
    (fits : start ≤ greatestNatural) :
    ∃ kept dropped, digits = kept ++ dropped ∧
      Nat.ofDigitChars 10 kept start ≤ greatestNatural ∧
      (dropped = [] ∨ greatestNatural < Nat.ofDigitChars 10 kept start * 10 + 10) ∧
      ∀ rest : List Char, (∀ c ∈ rest.head?, c.isDigit = false) →
        ∃ count, pushDigits start (digits ++ rest) =
          (Nat.ofDigitChars 10 kept start, count, dropped ++ rest) := by
  -- The induction is on the digits, as long as they fit.
  induction digits generalizing start with
  | nil =>
    refine ⟨[], [], rfl, fits, .inl rfl, fun rest stops => ⟨0, ?_⟩⟩
    cases rest with
    | nil => rfl
    | cons c rest => simp [pushDigits, stops c rfl]
  | cons c digits ih =>
    obtain ⟨digit, others⟩ := List.forall_mem_cons.mp all
    -- The first digit that does not fit is dropped with all behind it.
    by_cases fitting : start * 10 + (c.toNat - '0'.toNat) ≤ greatestNatural
    · obtain ⟨kept, dropped, rfl, bounded, left, pushed⟩ := ih others fitting
      have same : Nat.ofDigitChars 10 (c :: kept) start =
          Nat.ofDigitChars 10 kept (start * 10 + (c.toNat - '0'.toNat)) := by
        rw [Nat.ofDigitChars_cons, Nat.mul_comm]
      refine ⟨c :: kept, dropped, rfl, same ▸ bounded, same ▸ left, fun rest stops => ?_⟩
      obtain ⟨count, further⟩ := pushed rest stops
      refine ⟨count + 1, ?_⟩
      rw [List.cons_append, pushDigits, same]
      simp only [digit, fitting, further, decide_true, Bool.and_self, if_true]
    · have first := toNat_sub_of_isDigit digit
      refine ⟨[], c :: digits, rfl, fits, .inr ?_, fun rest stops => ⟨0, ?_⟩⟩
      · rw [Nat.ofDigitChars_nil]
        omega
      · rw [List.cons_append, pushDigits]
        simp only [fitting, decide_false, Bool.and_false, Bool.false_eq_true, if_false]
        rfl

/-- Of the numeral of a number beyond 64 bits the front is kept, and the other digits are counted. -/
theorem exists_kept_toDigits {n : Nat} (large : greatestNatural < n) :
    ∃ kept dropped : Nat, greatestNatural < kept * 10 + 10 ∧ kept * 10 ^ dropped ≤ n ∧
      n < (kept + 1) * 10 ^ dropped ∧
      ∀ isNegative rest, Stops rest →
        readNumber isNegative (Nat.toDigits 10 n ++ rest) =
          readFloat isNegative kept dropped rest := by
  -- All digits are taken into the front until the next one would not fit any more.
  have all : ∀ c ∈ Nat.toDigits 10 n, c.isDigit = true := fun c =>
    Nat.isDigit_of_mem_toDigits (by omega) (by omega)
  obtain ⟨kept, dropped, numeral, bounded, left, pushed⟩ :=
    exists_pushDigits all (Nat.zero_le greatestNatural)
  have meant : Nat.ofDigitChars 10 (Nat.toDigits 10 n) 0 = n := Nat.ofDigitChars_ten_toDigits
  have droppedDigits : ∀ c ∈ dropped, c.isDigit = true := fun c member =>
    all c (numeral ▸ List.mem_append_right kept member)
  have remainder := ofDigitChars_lt droppedDigits
  rw [numeral, Nat.ofDigitChars_append, Nat.ofDigitChars_eq_ofDigitChars_zero, Nat.mul_comm] at meant
  -- If no digit were left over, the number itself would fit.
  have some : dropped ≠ [] := by
    rintro rfl
    rw [List.length_nil, Nat.pow_zero, Nat.mul_one, Nat.ofDigitChars_nil] at meant
    omega
  refine ⟨Nat.ofDigitChars 10 kept 0, dropped.length, left.resolve_left some, by omega,
    by rw [Nat.add_mul]; omega, fun isNegative rest stops => ?_⟩
  obtain ⟨count, pushed⟩ := pushed rest fun c next => (stops c next).1
  rw [readNumber_of_pushed isNegative pushed droppedDigits stops,
    if_neg (List.length_pos_iff.mpr some).ne']

/-- Ten to the power of 308 is below the largest number, and stays so when it is rounded twice. -/
theorem pow_ten_le_greatest : (10 : ℚ) ^ 308 * (1 + roundoff) ^ 2 ≤ greatest.value := by
  -- In whole numbers this can be computed, once the powers of two are gathered.
  have exact : 10 ^ 308 * 9007199254740993 ^ 2 ≤ 9007199254740991 * 2 ^ 971 * 2 ^ 106 := by
    decide +kernel
  have factor : (1 + roundoff) ^ 2 = 9007199254740993 ^ 2 / 2 ^ 106 := by norm_num [roundoff]
  have mantissa : (2 : ℚ) ^ 53 - 1 = 9007199254740991 := by norm_num
  have exponent : (2 : ℚ) ^ (971 : Int) = 2 ^ 971 := zpow_natCast 2 971
  rw [value_greatest, factor, mantissa, exponent, ← mul_div_assoc, div_le_iff₀ (by positivity)]
  exact_mod_cast exact

/-- A number with a power of ten that is not too large is read as a float near their product. -/
theorem exists_floatOf? {kept dropped : Nat} (two : 2 ≤ kept)
    (bounded : kept * 10 ^ dropped < 10 ^ 308) :
    ∃ x, floatOf? kept dropped = some x ∧ Near 3 (kept * 10 ^ dropped) x.value := by
  have pos : 0 < 10 ^ dropped := Nat.pow_pos (by decide)
  have power : 10 ^ dropped < 10 ^ 308 :=
    Nat.lt_of_le_of_lt (Nat.le_mul_of_pos_left _ (by omega)) bounded
  -- So many digits can be dropped, but not more.
  have fits : dropped ≤ 308 := ((Nat.pow_lt_pow_iff_right (by decide)).mp power).le
  have grows : (1 : ℚ) ≤ (1 + roundoff) ^ 2 := one_le_pow₀ (by linarith [roundoff_pos])
  have room {m : Nat} (below : m < 10 ^ 308) : (m : ℚ) ≤ greatest.value := by
    have cast : (m : ℚ) ≤ 10 ^ 308 := by exact_mod_cast below.le
    exact cast.trans ((le_mul_of_one_le_right (by positivity) grows).trans pow_ten_le_greatest)
  -- Both factors are rounded, and so is their product.
  have front := near_ofNat (show 0 < kept by omega)
    (room (Nat.lt_of_le_of_lt (Nat.le_mul_of_pos_right kept pos) bounded))
  have scale : Near 1 (10 ^ dropped : Nat) (powerOfTen dropped).value := near_ofNat pos (room power)
  have product := front.mul scale (Nat.cast_nonneg _) (Nat.cast_nonneg _)
  rw [← Nat.cast_mul] at product
  -- The product is neither too small nor too large to be rounded.
  have one : (1 : ℚ) ≤ (ofNat kept).value * (powerOfTen dropped).value := by
    have least : (2 : ℚ) ≤ (kept * 10 ^ dropped : Nat) := by
      exact_mod_cast two.trans (Nat.le_mul_of_pos_right kept pos)
    have shrinks : (1 : ℚ) ≤ 2 * (1 - roundoff) ^ (1 + 1) := by norm_num [roundoff]
    have positive : (0 : ℚ) ≤ (1 - roundoff) ^ (1 + 1) := by norm_num [roundoff]
    exact shrinks.trans ((mul_le_mul_of_nonneg_right least positive).trans product.1)
  have most : (ofNat kept).value * (powerOfTen dropped).value ≤ greatest.value := by
    have cast : ((kept * 10 ^ dropped : Nat) : ℚ) ≤ 10 ^ 308 := by exact_mod_cast bounded.le
    exact product.2.trans
      ((mul_le_mul_of_nonneg_right cast (zero_le_one.trans grows)).trans pow_ten_le_greatest)
  obtain ⟨x, rounded, near⟩ := exists_mul? one most
  refine ⟨x, ?_, ?_⟩
  · rw [floatOf?, if_pos (Int.natCast_nonneg _), if_pos (by omega), Int.toNat_natCast]
    exact rounded
  · have whole := product.trans near
    rwa [Nat.cast_mul, Nat.cast_pow, Nat.cast_ofNat] at whole

/-- A number beyond 64 bits is as near to its front, scaled, as one rounding would leave it. -/
theorem near_kept {n kept dropped : Nat} (large : greatestNatural < kept * 10 + 10)
    (below : kept * 10 ^ dropped ≤ n) (above : n < (kept + 1) * 10 ^ dropped) :
    Near 1 n (kept * 10 ^ dropped) := by
  -- The front has so many digits that its last one is worth less than a rounding.
  have many : (1 : ℚ) ≤ kept * roundoff := by
    have least : 9007199254740992 ≤ kept := by
      unfold greatestNatural at large
      omega
    have cast : (9007199254740992 : ℚ) ≤ kept := by exact_mod_cast least
    rw [roundoff]
    linarith
  have under : (kept * 10 ^ dropped : ℚ) ≤ n := by exact_mod_cast below
  have most : (n : ℚ) ≤ (kept + 1) * 10 ^ dropped := by exact_mod_cast above.le
  have unit : (0 : ℚ) ≤ 10 ^ dropped := by positivity
  refine .of_abs_sub_le ?_
  rw [abs_sub_comm, abs_of_nonneg (sub_nonneg.mpr under)]
  -- What was left out is less than one unit of the front, and so than a rounding of the number.
  calc (n : ℚ) - kept * 10 ^ dropped
    _ ≤ 1 * 10 ^ dropped := by linarith
    _ ≤ kept * roundoff * 10 ^ dropped := mul_le_mul_of_nonneg_right many unit
    _ = kept * 10 ^ dropped * roundoff := by ring
    _ ≤ n * roundoff := mul_le_mul_of_nonneg_right under roundoff_pos.le

/-- Every whole number below ten to the power of 308 is read, as itself or as a float near it. -/
theorem exists_readNumber {n : Nat} (bounded : n < 10 ^ 308) :
    ∃ number : Number, number.Reads n ∧ ∀ rest, Stops rest →
      readNumber false (Nat.toDigits 10 n ++ rest) = .ok (number, rest) := by
  -- A number of 64 bits is read as it is, and of a larger one its front.
  rcases Nat.lt_or_ge greatestNatural n with large | small
  · obtain ⟨kept, dropped, long, below, above, read⟩ := exists_kept_toDigits large
    have two : 2 ≤ kept := by
      unfold greatestNatural at long
      omega
    obtain ⟨x, made, near⟩ := exists_floatOf? two (Nat.lt_of_le_of_lt below bounded)
    refine ⟨.float false x, ⟨rfl, large, (near_kept long below above).trans near⟩,
      fun rest stops => ?_⟩
    rw [read false rest stops, readFloat, made]
  · exact ⟨.natural n, ⟨rfl, small⟩, fun rest stops => readNumber_toDigits false small stops⟩

/-- The digits of a whole number are read as a value, wherever it stands. -/
theorem exists_takesForm_whole {n : Nat} (bounded : n < 10 ^ 308) :
    ∃ number : Number, number.Reads n ∧
      ∀ depth, (readValue depth).TakesForm (.number { whole := n }) (.number number) := by
  obtain ⟨number, reads, read⟩ := exists_readNumber bounded
  refine ⟨number, reads, fun depth => ?_⟩
  have whole : NumberForm.text { whole := n } = Nat.toDigits 10 n := List.append_nil _
  -- Without a fraction and an exponent the text is the digits alone.
  have taken : readSigned.Takes (NumberForm.text { whole := n }) number :=
    whole ▸ takes_readSigned_digits read
  -- Lists and objects start otherwise, so what reads them does not matter, nor does the depth.
  have opening {array object : Reader Value} (gaps : Nat → List Blank) :
      (readValueWith array object).Takes
        (spaced (tight gaps) (Form.number { whole := n }).lexemes) (.number number) :=
    Form.takes_opening (by
      rw [Form.lexemes, spaced_tight_singleton]
      exact taken.map Value.number)
  cases depth with
  | zero => exact Reader.takesForm_behindBlanks opening
  | succ depth => exact Reader.takesForm_behindBlanks opening

end Manuscript.Json
