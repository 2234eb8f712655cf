import Manuscript.Text.Utf8

/-!
Decoding bytes that need not be UTF-8. A byte that is a character by itself is decoded as this
wherever it stands: it is swallowed by no sequence that is cut short before it, and no sequence is
decoded to it. So texts of such characters occur exactly where their bytes do.
-/

namespace Manuscript.Utf8

/-- A byte that is a character by itself. -/
def IsAscii (byte : UInt8) : Prop := byte < 0x80

variable {byte : UInt8} {bytes rest : Bytes}

/-- A single byte says that it is a character by itself. -/
theorem lead?_of_ascii (ascii : IsAscii byte) : lead? byte = some ⟨byte.toNat, 0, 0x80, 0xbf⟩ :=
  if_pos ascii

/-- A single byte is the character of its number, whatever follows. -/
theorem character_of_ascii (ascii : IsAscii byte) (rest : Bytes) :
    character byte rest = (some (Char.ofNat byte.toNat), rest) := by
  rw [character, lead?_of_ascii ascii]
  rfl

/-- The characters of bytes are the first one and those of what follows it. -/
theorem characters_cons (byte : UInt8) (rest : Bytes) :
    characters (byte :: rest) =
      (character byte rest).1 :: characters (character byte rest).2 := by
  rw [characters]

/-- How many numbers further bytes of six bits each make. -/
def numbersOf : Nat → Nat
  | 0 => 1
  | count + 1 => 64 * numbersOf count

namespace Lead

/-- The least number that the bytes of a character can make. -/
def least (lead : Lead) : Nat :=
  (lead.bits * 64 + (lead.low.toNat - 0x80)) * numbersOf (lead.count - 1)

/-- The number behind the greatest one that they can make. -/
def bound (lead : Lead) : Nat :=
  (lead.bits * 64 + (lead.high.toNat - 0x80) + 1) * numbersOf (lead.count - 1)

/-- What a first byte that is no character says. -/
structure IsSound (lead : Lead) : Prop where
  /-- More bytes follow. -/
  more : 0 < lead.count
  /-- The next byte is no character by itself. -/
  low : 0x80 ≤ lead.low.toNat
  /-- It goes on with six bits of the character. -/
  high : lead.high.toNat ≤ 0xbf
  /-- The numbers are not those of single bytes. -/
  wide : 0x80 ≤ lead.least
  /-- They are those of characters: none of them is a surrogate. -/
  valid : lead.bound ≤ 0xd800 ∨ 0xe000 ≤ lead.least ∧ lead.bound ≤ 0x110000

end Lead

/-- What a byte says that begins a longer character leads to characters that take as long. -/
theorem isSound_of_lead? {lead : Lead} (found : lead? byte = some lead) (long : ¬ IsAscii byte) :
    lead.IsSound := by
  unfold lead? at found
  unfold IsAscii at long
  rw [if_neg long] at found
  -- The bytes fall into ranges, and each range is a matter of numbers.
  simp only [UInt8.lt_iff_toNat_lt, ← UInt8.toNat_inj, UInt8.reduceToNat] at found long
  have small := byte.toNat_lt
  generalize byte.toNat = n at found small long
  split at found
  · cases found
  repeat' split at found
  -- A byte in none of the ranges leads nothing.
  case isFalse => cases found
  all_goals
    obtain rfl := Option.some.inj found
    constructor <;> simp only [Lead.least, Lead.bound, Nat.reduceSub, numbersOf,
      UInt8.reduceToNat] <;> omega

/-- The number that a byte between two bounds and further ones of six bits each make. -/
theorem completed_range {count bits code : Nat} {low high : UInt8}
    (done : (completed (count + 1) bits low high bytes).1 = some code)
    (lowBound : 0x80 ≤ low.toNat) (highBound : high.toNat ≤ 0xbf) :
    (bits * 64 + (low.toNat - 0x80)) * numbersOf count ≤ code ∧
      code < (bits * 64 + (high.toNat - 0x80) + 1) * numbersOf count := by
  -- Each byte adds its six bits to those before it.
  induction count generalizing bits low high bytes with
  | zero =>
    cases bytes with
    | nil => cases done
    | cons byte rest =>
      rw [completed] at done
      split at done
      case isFalse => cases done
      case isTrue within =>
        rw [UInt8.le_iff_toNat_le, UInt8.le_iff_toNat_le] at within
        obtain rfl := Option.some.inj done
        -- The last byte fixes the number.
        rw [numbersOf]
        omega
  | succ count ih =>
    cases bytes with
    | nil => cases done
    | cons byte rest =>
      rw [completed] at done
      split at done
      case isFalse => cases done
      case isTrue within =>
        rw [UInt8.le_iff_toNat_le, UInt8.le_iff_toNat_le] at within
        -- The bytes behind may be any, and fill what the first ones have left open.
        obtain ⟨least, most⟩ := ih done (by decide) (by decide)
        simp only [UInt8.reduceToNat] at least most
        constructor
        · refine Nat.le_trans ?_ least
          rw [numbersOf, ← Nat.mul_assoc]
          exact Nat.mul_le_mul_right _ (by omega)
        · refine Nat.lt_of_lt_of_le most ?_
          rw [numbersOf, ← Nat.mul_assoc]
          exact Nat.mul_le_mul_right _ (by omega)

/-- The character of a number that is one has this number. -/
theorem toNat_ofNat {n : Nat} (valid : n.isValidChar) : (Char.ofNat n).toNat = n := by
  rw [Char.ofNat, dif_pos valid]
  rfl

/-- A character of the single bytes comes from none of the longer sequences. -/
theorem isAscii_of_character {c : Char} (first : (character byte rest).1 = some c)
    (small : c.toNat < 0x80) : IsAscii byte := by
  by_cases ascii : IsAscii byte
  · exact ascii
  -- A longer sequence gives a number beyond the single bytes, or none at all.
  exfalso
  unfold character at first
  split at first
  · cases first
  rename_i lead found
  obtain ⟨more, low, high, wide, valid⟩ := isSound_of_lead? found ascii
  dsimp only at first
  rw [Option.map_eq_some_iff] at first
  obtain ⟨code, done, rfl⟩ := first
  obtain ⟨count, size⟩ := Nat.exists_eq_add_of_lt more
  rw [Nat.zero_add] at size
  rw [size] at done
  obtain ⟨least, most⟩ := completed_range done low high
  simp only [Lead.least, Lead.bound, size, Nat.add_sub_cancel] at wide valid
  -- The number is that of a character, so that it is the number of the one found.
  have isValid : code.isValidChar := by
    unfold Nat.isValidChar
    omega
  rw [toNat_ofNat isValid] at small
  omega

/-- A single byte ends what is taken before it as the end of all bytes does. -/
theorem completed_append {mark : UInt8} (ascii : IsAscii mark) {count bits : Nat}
    {low high : UInt8} (lowBound : 0x80 ≤ low.toNat) (front back : Bytes) :
    completed count bits low high (front ++ mark :: back) =
      ((completed count bits low high front).1,
        (completed count bits low high front).2 ++ mark :: back) := by
  induction count generalizing bits low high front with
  | zero => rfl
  | succ count ih =>
    cases front with
    | nil =>
      -- The mark is no byte to go on with, so that it is left.
      have other : ¬ (low ≤ mark ∧ mark ≤ high) := by
        intro within
        simp only [IsAscii, UInt8.lt_iff_toNat_lt, UInt8.reduceToNat] at ascii
        rw [UInt8.le_iff_toNat_le] at within
        omega
      simp only [List.nil_append, completed, if_neg other]
    | cons byte rest =>
      simp only [List.cons_append, completed]
      split
      · -- A byte that fits is taken from the front in both.
        exact ih (by decide) rest
      · rfl

/-- A single byte ends the character before it as the end of all bytes does. -/
theorem character_append {mark : UInt8} (ascii : IsAscii mark) (byte : UInt8)
    (front back : Bytes) :
    character byte (front ++ mark :: back) =
      ((character byte front).1, (character byte front).2 ++ mark :: back) := by
  -- An ASCII byte is a character alone, and any other looks for bytes that the mark is none of.
  by_cases single : IsAscii byte
  · rw [character_of_ascii single, character_of_ascii single]
  unfold character
  cases found : lead? byte with
  | none => rfl
  | some lead => simp only [completed_append ascii (isSound_of_lead? found single).low]

/--
A single byte is a character wherever it stands: what stands before it and what stands behind it
are decoded as they are by themselves.
-/
theorem characters_append {mark : UInt8} (ascii : IsAscii mark) (front back : Bytes) :
    characters (front ++ mark :: back) =
      characters front ++ some (Char.ofNat mark.toNat) :: characters back := by
  -- Character by character, until the mark is the first byte that is left.
  induction front using characters.induct with
  | case1 =>
    rw [List.nil_append, characters_cons, character_of_ascii ascii, characters]
    rfl
  | case2 byte rest shorter ih =>
    rw [List.cons_append, characters_cons, character_append ascii, ih, characters_cons byte rest]
    rfl

/-- What follows a character is the end of what follows its first byte. -/
theorem completed_suffix (count bits : Nat) (low high : UInt8) (bytes : Bytes) :
    (completed count bits low high bytes).2 <:+ bytes := by
  -- At most as many bytes are taken as were announced.
  induction count generalizing bits low high bytes with
  | zero => exact List.suffix_refl bytes
  | succ count ih =>
    cases bytes with
    | nil => exact List.suffix_refl []
    | cons byte rest =>
      rw [completed]
      split
      · exact (ih ..).trans (List.suffix_cons ..)
      · exact List.suffix_refl _

/-- What follows a character is the end of what follows its first byte. -/
theorem character_suffix (byte : UInt8) (rest : Bytes) : (character byte rest).2 <:+ rest := by
  unfold character
  split
  · exact List.suffix_refl rest
  · exact completed_suffix ..

/-- A text of bytes begins with the first character and goes on with what follows it. -/
theorem toList_decodeLossy_cons (byte : UInt8) (rest : Bytes) :
    (decodeLossy (byte :: rest)).toList =
      (character byte rest).1.getD '\ufffd' ::
        (decodeLossy (character byte rest).2).toList := by
  simp only [decodeLossy, characters_cons, List.map_cons, String.toList_ofList]

/-- A single byte is a character of the text, and cuts it in two. -/
theorem toList_decodeLossy_append {mark : UInt8} (ascii : IsAscii mark) (front back : Bytes) :
    (decodeLossy (front ++ mark :: back)).toList =
      (decodeLossy front).toList ++ Char.ofNat mark.toNat :: (decodeLossy back).toList := by
  simp only [decodeLossy, characters_append ascii, List.map_append, List.map_cons,
    Option.getD_some, String.toList_ofList]

/-- The byte of a character that takes a single one. -/
theorem toNat_toUInt8 {c : Char} (small : c.toNat < 0x80) : c.toUInt8.toNat = c.toNat := by
  show c.toNat % 256 = c.toNat
  omega

/-- A character that takes a single byte takes one. -/
theorem isAscii_toUInt8 {c : Char} (small : c.toNat < 0x80) : IsAscii c.toUInt8 := by
  rw [IsAscii, UInt8.lt_iff_toNat_lt, toNat_toUInt8 small]
  exact small

/-- A character that takes a single byte is first in a text where its byte is first. -/
theorem first_eq_iff {c : Char} (small : c.toNat < 0x80) :
    (character byte rest).1.getD '\ufffd' = c ↔ byte = c.toUInt8 := by
  constructor
  · intro first
    have found : (character byte rest).1 = some c := by
      cases given : (character byte rest).1 with
      | some other => rw [given] at first; exact congrArg some first
      | none =>
        -- The replacement character takes more than one byte.
        rw [given] at first
        subst first
        exact absurd small (by decide)
    -- A small character is written as a single byte, which is its number.
    have ascii := isAscii_of_character found small
    rw [character_of_ascii ascii, Option.some.injEq] at found
    subst found
    have valid : byte.toNat.isValidChar := .inl (by have := byte.toNat_lt; omega)
    rw [← UInt8.toNat_inj, toNat_toUInt8 small, toNat_ofNat valid]
  · rintro rfl
    rw [character_of_ascii (isAscii_toUInt8 small), toNat_toUInt8 small, Char.ofNat_toNat]
    rfl

section Plain

variable {text : List Char} (plain : ∀ c ∈ text, c.toNat < 0x80)

include plain

/-- A text of characters that take a single byte each is spelled by these. -/
theorem flatMap_utf8EncodeChar : text.flatMap String.utf8EncodeChar = text.map Char.toUInt8 := by
  induction text with
  | nil => rfl
  | cons c rest ih =>
    -- So small a number is written as itself.
    obtain ⟨small, others⟩ := List.forall_mem_cons.mp plain
    have single : String.utf8EncodeChar c = [c.toUInt8] := by
      have fits : c.val.toNat ≤ 0x7f := Nat.le_of_lt_succ small
      simp only [String.utf8EncodeChar, if_pos fits]
      rfl
    rw [List.flatMap_cons, single, ih others]
    rfl

/-- A text of such characters is in front where their bytes are. -/
theorem prefix_decodeLossy_iff :
    text <+: (decodeLossy bytes).toList ↔ text.map Char.toUInt8 <+: bytes := by
  induction text generalizing bytes with
  -- The first character is there just when its byte is, and takes no other one with it.
  | nil => simp
  | cons c rest ih =>
    obtain ⟨small, others⟩ := List.forall_mem_cons.mp plain
    cases bytes with
    | nil => simp [decodeLossy, characters]
    | cons byte bytes =>
      rw [toList_decodeLossy_cons, List.map_cons, List.cons_prefix_cons, List.cons_prefix_cons,
        eq_comm, first_eq_iff small, eq_comm, and_congr_right_iff]
      rintro rfl
      rw [character_of_ascii (isAscii_toUInt8 small), ih others]

/-- The bytes of such characters are decoded to them, whatever follows. -/
theorem toList_decodeLossy_plain (behind : Bytes) :
    (decodeLossy (text.map Char.toUInt8 ++ behind)).toList =
      text ++ (decodeLossy behind).toList := by
  induction text with
  | nil => rfl
  | cons c rest ih =>
    -- Each byte is a character of its own, so that nothing behind it is touched.
    obtain ⟨small, others⟩ := List.forall_mem_cons.mp plain
    rw [List.map_cons, List.cons_append, toList_decodeLossy_cons, (first_eq_iff small).mpr rfl,
      character_of_ascii (isAscii_toUInt8 small), ih others]
    rfl

/-- A text of such characters occurs where their bytes do. -/
theorem infix_decodeLossy_iff :
    text <:+: (decodeLossy bytes).toList ↔ text.map Char.toUInt8 <:+: bytes := by
  constructor
  · -- The text is in front, or it occurs in what follows the first character.
    intro occurs
    induction bytes using characters.induct with
    | case1 =>
      have empty : text = [] := by simpa [decodeLossy, characters] using occurs
      rw [empty]
      exact List.infix_refl []
    | case2 byte rest shorter ih =>
      rw [toList_decodeLossy_cons, List.infix_cons_iff, ← toList_decodeLossy_cons] at occurs
      rcases occurs with first | later
      · exact ((prefix_decodeLossy_iff plain).mp first).isInfix
      · exact (ih later).trans ((character_suffix byte rest).trans (List.suffix_cons ..)).isInfix
  · rintro ⟨front, behind, rfl⟩
    -- Behind the bytes in front decoding starts anew, as a single byte belongs to no longer
    -- character.
    cases text with
    | nil => exact List.nil_infix
    | cons c rest =>
      obtain ⟨small, others⟩ := List.forall_mem_cons.mp plain
      have cut : front ++ (c :: rest).map Char.toUInt8 ++ behind =
          front ++ c.toUInt8 :: (rest.map Char.toUInt8 ++ behind) := by simp
      rw [cut, toList_decodeLossy_append (isAscii_toUInt8 small), toList_decodeLossy_plain others,
        toNat_toUInt8 small, Char.ofNat_toNat]
      exact ⟨(decodeLossy front).toList, (decodeLossy behind).toList, by simp⟩

end Plain

end Manuscript.Utf8
