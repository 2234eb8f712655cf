import Manuscript.Proofs.Json.Integers
import Manuscript.Proofs.Text.Trimming
import Manuscript.Render.Tokens

/-!
Which command a heading is written with, by the level that it is given: as a number, of any size that
JSON can be read with, or as the digits of one. Numbers that are too large count as the deepest level,
but digits that say more than 64 bits hold count as no level, and so as the first one.
-/

namespace Manuscript

/-- A digit is no white space. -/
theorem Unicode.isWhitespace_of_isDigit {c : Char} (digit : c.isDigit = true) :
    isWhitespace c = false := by
  have range := Char.isDigit_iff_toNat.mp digit
  have zero : '0'.toNat = 48 := rfl
  have nine : '9'.toNat = 57 := rfl
  rw [Bool.eq_false_iff]
  intro blank
  -- Of the ranges of white space two end in front of the digits and the others begin behind them.
  simp only [isWhitespace, whitespaceRanges, Ranges.has, List.any_cons, List.any_nil, Bool.or_false,
    Bool.or_eq_true, Bool.and_eq_true, decide_eq_true_eq] at blank
  omega

namespace Attrs

/-- The digits of a number are a numeral for it, unless it is too large. -/
theorem countOfNumeral?_toDigits (n : Nat) :
    countOfNumeral? (Nat.toDigits 10 n) = if n ≤ greatestCount then some n else none := by
  have all : (Nat.toDigits 10 n).all Char.isDigit = true :=
    List.all_eq_true.mpr fun c => Nat.isDigit_of_mem_toDigits (by omega) (by omega)
  -- The digits of a number mean that number.
  have meant : (Nat.toDigits 10 n).foldl (fun acc c => acc * 10 + (c.toNat - '0'.toNat)) 0 = n := by
    have read : Nat.ofDigitChars 10 (Nat.toDigits 10 n) 0 = n := Nat.ofDigitChars_ten_toDigits
    rw [Nat.ofDigitChars_eq_foldl] at read
    simpa only [Nat.mul_comm] using read
  have ends : ∀ c ∈ ([] : List Char).head?, c.isDigit = false := nofun
  obtain ⟨c, tail, front, digit, -⟩ := Json.toDigits_append_eq_cons n ends
  rw [List.append_nil] at front
  rw [front] at all meant ⊢
  -- A digit is no sign.
  have unsigned : c ≠ '+' := by
    rintro rfl
    cases digit
  unfold countOfNumeral?
  split
  · rename_i rest same
    exact absurd (List.cons.inj same).1 unsigned
  · rw [if_pos ⟨List.cons_ne_nil c tail, all⟩]
    dsimp only
    rw [meant]

/-- Blanks around the digits of a number do not count. -/
theorem count?_of_digits {attrs : Attrs} {name : String} {n : Nat} {before behind : List Char}
    (blank : ∀ c ∈ before ++ behind, Unicode.isWhitespace c = true)
    (given : attrs.get? name =
      some (.string (String.ofList (before ++ Nat.toDigits 10 n ++ behind)))) :
    attrs.count? name = if n ≤ greatestCount then some n else none := by
  -- No digit is a blank, so that trimming stops at the digits.
  have solid : ∀ c ∈ Nat.toDigits 10 n, Unicode.isWhitespace c = false := fun c member =>
    Unicode.isWhitespace_of_isDigit (Nat.isDigit_of_mem_toDigits (by omega) (by omega) member)
  have trimmed : Unicode.trimChars (before ++ Nat.toDigits 10 n ++ behind) = Nat.toDigits 10 n := by
    rw [Unicode.trimChars_append blank]
    exact Unicode.trimChars_eq_self (fun c first => solid c (List.mem_of_head? first))
      fun c last => solid c (List.mem_of_getLast? last)
  rw [count?, given]
  dsimp only
  rw [String.toList_ofList, trimmed, countOfNumeral?_toDigits]

/-- However large a number is, it counts as itself up to half of the greatest count. -/
theorem exists_countOfNumber? {n : Nat} {number : Json.Number} (reads : number.Reads n) :
    ∃ count, countOfNumber? number = some count ∧
      min count 0x8000000000000000 = min n 0x8000000000000000 := by
  cases number with
  -- Below the limit the number is kept as it is, and the limit is far above the levels.
  | natural m =>
    obtain ⟨rfl, -⟩ := reads
    refine ⟨_, rfl, ?_⟩
    unfold greatestCount
    omega
  | negative size => cases reads
  | float isNegative size =>
    obtain ⟨rfl, large, near⟩ := reads
    unfold Json.greatestNatural at large
    refine ⟨min size.floor greatestCount, by simp [countOfNumber?], ?_⟩
    -- Four roundings do not take away half of the number.
    have half : (0x8000000000000000 : ℚ) ≤ size.value := by
      have cast : (0x10000000000000000 : ℚ) ≤ n := by exact_mod_cast large
      have shrinks : (1 : ℚ) / 2 ≤ (1 - Double.roundoff) ^ 4 := by norm_num [Double.roundoff]
      calc (0x8000000000000000 : ℚ)
        _ = 0x10000000000000000 * (1 / 2) := by norm_num
        _ ≤ n * (1 - Double.roundoff) ^ 4 :=
          mul_le_mul cast shrinks (by norm_num) (Nat.cast_nonneg n)
        _ ≤ size.value := near.1
    -- So the whole part is large, too, and the last level is taken either way.
    have whole : 0x8000000000000000 ≤ size.floor := Double.le_floor_iff.mpr (by exact_mod_cast half)
    unfold greatestCount
    omega

/-- A level that is given as a number has the command of this number. -/
theorem exists_count?_of_reads {attrs : Attrs} {name : String} {n : Nat} {number : Json.Number}
    (reads : number.Reads n) (given : attrs.get? name = some (.number number)) :
    ∃ count, attrs.count? name = some count ∧
      ∀ table : HeadingCommands, table.command count = table.command n := by
  obtain ⟨count, counted, same⟩ := exists_countOfNumber? reads
  refine ⟨count, ?_, fun table => ?_⟩
  · rw [count?, given]
    exact counted
  -- Rounding goes too high up to matter, where every level is the last one.
  · have index : HeadingCommands.index count = HeadingCommands.index n := by
      unfold HeadingCommands.index sectioningLevels
      congr 1
      omega
    exact congrArg table.commands.get index

end Attrs

namespace Renderer

/-- A heading that is not too deep is written with its level around a content of its own. -/
theorem exists_renderToken_heading (r : Renderer) {depth : Nat} (shallow : r.flattens depth = false)
    (tables : Nat) (raw? : Option String) (children? : Option (List Token)) :
    ∃ content after, ∀ attrs : Attrs,
      r.renderToken depth tables ⟨.heading, raw?, children?, attrs⟩ =
        (r.heading content ((attrs.count? "level").getD 1), after) := by
  -- The content does not look at the attributes, and so not at the level.
  have notDeep : ¬ r.flattens depth = true := by simp [shallow]
  cases raw? with
  | some raw => exact ⟨raw, tables, fun attrs => if_neg notDeep⟩
  | none =>
    cases children? with
    | none => exact ⟨"", tables, fun attrs => if_neg notDeep⟩
    | some children => exact ⟨_, _, fun attrs => if_neg notDeep⟩

/--
A whole number below ten to the power of 308 is read from JSON, and a heading with it as its level is
written with the command of this number: the first one for zero, and the last one for all numbers
beyond the last. The digits of the number, with blanks around them or without, say the same as long as
64 bits hold the number, and no level at all, which means the first one, when they do not.
-/
theorem renderToken_heading_level {n : Nat} (bounded : n < 10 ^ 308) :
    ∃ number : Json.Number, number.Reads n ∧
      (∀ nesting, (Json.readValue nesting).TakesForm (.number { whole := n }) (.number number)) ∧
      ∀ (r : Renderer) (depth tables : Nat) (raw? : Option String) (children? : Option (List Token)),
        r.flattens depth = false →
        let entry (level : Nat) : String :=
          r.options.headings.commands.get ⟨min (max level 1) 5 - 1, by unfold sectioningLevels; omega⟩
        ∃ content after,
          (∀ attrs : Attrs, attrs.get? "level" = some (.number number) →
            r.renderToken depth tables ⟨.heading, raw?, children?, attrs⟩ =
              (r.fill .heading [(.headingType, entry n), (.text, content)], after)) ∧
          ∀ (attrs : Attrs) (before behind : List Char),
            (∀ c ∈ before ++ behind, Unicode.isWhitespace c = true) →
            attrs.get? "level" =
              some (.string (String.ofList (before ++ Nat.toDigits 10 n ++ behind))) →
            r.renderToken depth tables ⟨.heading, raw?, children?, attrs⟩ =
              (r.fill .heading
                [(.headingType, entry (if n ≤ Attrs.greatestCount then n else 1)), (.text, content)],
                after) := by
  obtain ⟨number, reads, taken⟩ := Json.exists_takesForm_whole bounded
  refine ⟨number, reads, taken, fun r depth tables raw? children? shallow => ?_⟩
  obtain ⟨content, after, written⟩ := r.exists_renderToken_heading shallow tables raw? children?
  -- A number is read as the count it is, a text only if the count fits in 64 bits.
  refine ⟨content, after, fun attrs given => ?_, fun attrs before behind blank given => ?_⟩
  · obtain ⟨count, counted, same⟩ := Attrs.exists_count?_of_reads reads given
    rw [written, counted, Option.getD_some, heading, same]
    rfl
  · -- Beyond 64 bits the text is no count, and the level is that of a heading without one.
    rw [written, Attrs.count?_of_digits blank given]
    split <;> rfl

/-- The first number that 64 bits do not hold is among those that are read. -/
theorem beyond_lt_pow : 18446744073709551616 < 10 ^ 308 := calc
  18446744073709551616 < 10 ^ 20 := by decide
  _ ≤ 10 ^ 308 := pow_le_pow_right₀ (by decide) (by decide)

/-- The first number that 64 bits do not hold is the deepest level as a number, and the first one in
digits. -/
theorem renderToken_heading_level_beyond :
    let r := Renderer.ofTemplates .builtin {}
    18446744073709551616 < 10 ^ 308 ∧
      ∃ number : Json.Number, number.Reads 18446744073709551616 ∧ ∃ content after,
        r.renderToken 0 0
            ⟨.heading, some "T", none, Attrs.empty.insert "level" (.number number)⟩ =
          (r.fill .heading [(.headingType, "subparagraph"), (.text, content)], after) ∧
        r.renderToken 0 0
            ⟨.heading, some "T", none,
              Attrs.empty.insert "level" (.string " 18446744073709551616\n")⟩ =
          (r.fill .heading [(.headingType, "section"), (.text, content)], after) := by
  intro r
  -- Each of the two attributes says the number in its own way.
  obtain ⟨number, reads, -, written⟩ := renderToken_heading_level beyond_lt_pow
  obtain ⟨content, after, ofNumber, ofDigits⟩ := written r 0 0 (some "T") none rfl
  -- The blanks around the digits are trimmed.
  have blank : ([' '] ++ ['\n']).all Unicode.isWhitespace = true := by decide
  refine ⟨beyond_lt_pow, number, reads, content, after, ofNumber _ ?_,
    ofDigits _ [' '] ['\n'] (List.all_eq_true.mp blank) ?_⟩
  · rw [Attrs.get?_insert, if_pos rfl]
  · rw [Attrs.get?_insert, if_pos rfl]
    rfl

/-- Digits that say more than 64 bits hold do not have the command of their number. -/
theorem not_renderToken_heading_digits :
    ¬ ∀ (n : Nat) (r : Renderer) (attrs : Attrs), n < 10 ^ 308 →
      attrs.get? "level" = some (.string (String.ofList (Nat.toDigits 10 n))) →
      r.renderToken 0 0 ⟨.heading, some "T", none, attrs⟩ = (r.heading "T" n, 0) := by
  intro every
  -- This number is one too large for 64 bits.
  have written := every 18446744073709551616 (.ofTemplates .builtin {})
    (Attrs.empty.insert "level" (.string "18446744073709551616")) beyond_lt_pow (by rfl)
  revert written
  decide +kernel

end Renderer

end Manuscript
