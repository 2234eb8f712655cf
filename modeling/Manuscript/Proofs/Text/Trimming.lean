import Manuscript.Unicode.Whitespace
import Mathlib.Data.List.DropRight
import Mathlib.Data.List.Infix

/-!
Trimming takes the white space off both ends of a text and nothing else. What is left is not
trimmed any further, and holds every mark without white space that the text held.
-/

namespace Manuscript.Unicode

variable {text mark : List Char}

/-- Trimming works at the front first, and then at the back. -/
theorem trimChars_eq (text : List Char) :
    trimChars text = (text.dropWhile isWhitespace).rdropWhile isWhitespace := rfl

/-- What is left of a text was in it. -/
theorem trimChars_infix (text : List Char) : trimChars text <:+: text :=
  (List.rdropWhile_prefix _ _).isInfix.trans (List.dropWhile_suffix _).isInfix

/-- A trimmed text does not begin with white space. -/
theorem head?_trimChars : ∀ c ∈ (trimChars text).head?, isWhitespace c = false := by
  intro c first
  -- What is taken off the back leaves the first character, if it leaves any.
  obtain ⟨others, left⟩ := List.head?_eq_some_iff.mp first
  have start : c :: others <+: text.dropWhile isWhitespace := by
    rw [← left]
    exact List.rdropWhile_prefix isWhitespace _
  obtain ⟨more, spelled⟩ := start
  have notBlank := List.head?_dropWhile_not isWhitespace text
  rw [← spelled] at notBlank
  exact notBlank

/-- A trimmed text does not end with white space. -/
theorem getLast?_trimChars : ∀ c ∈ (trimChars text).getLast?, isWhitespace c = false := by
  intro c last
  -- The end that was trimmed last is the front of the text turned around.
  rw [trimChars, List.getLast?_reverse] at last
  have notBlank :=
    List.head?_dropWhile_not isWhitespace (text.dropWhile isWhitespace).reverse
  rw [show List.head? _ = some c from last] at notBlank
  exact notBlank

/-- Nothing is taken off a text that has no white space at its ends. -/
theorem trimChars_eq_self (front : ∀ c ∈ text.head?, isWhitespace c = false)
    (back : ∀ c ∈ text.getLast?, isWhitespace c = false) : trimChars text = text := by
  -- The first character is kept, and so are all behind it.
  have kept : text.dropWhile isWhitespace = text := by
    refine List.dropWhile_eq_self_iff.mpr fun some => ?_
    rw [front _ (List.head?_eq_getElem? ▸ List.getElem?_eq_getElem some)]
    exact Bool.false_ne_true
  rw [trimChars_eq, kept, List.rdropWhile_eq_self_iff]
  intro some
  rw [back _ (List.getLast?_eq_some_getLast some)]
  exact Bool.false_ne_true

/-- A trimmed text stays as it is. -/
theorem trimChars_trimChars (text : List Char) : trimChars (trimChars text) = trimChars text :=
  trimChars_eq_self head?_trimChars getLast?_trimChars

/-- White space around a text is taken off like that at its own ends. -/
theorem trimChars_append {before after : List Char}
    (blank : ∀ c ∈ before ++ after, isWhitespace c = true) :
    trimChars (before ++ text ++ after) = trimChars text := by
  obtain ⟨front, back⟩ := List.forall_mem_append.mp blank
  rw [trimChars, trimChars, List.append_assoc, List.dropWhile_append_of_pos front,
    List.dropWhile_append]
  split
  · -- A text of white space leaves nothing, whatever stands around it.
    rename_i nothing
    have gone : after.dropWhile isWhitespace = [] := List.dropWhile_eq_nil_iff.mpr back
    rw [gone, List.isEmpty_iff.mp nothing]
  · have turned : ∀ c ∈ after.reverse, isWhitespace c = true := fun c member =>
      back c (List.mem_reverse.mp member)
    rw [List.reverse_append, List.dropWhile_append_of_pos turned]

/-- A mark is left where something is taken off the front that is not in it. -/
theorem infix_dropWhile_iff {p : Char → Bool} (some : mark ≠ []) (apart : ∀ c ∈ mark, p c = false) :
    mark <:+: text.dropWhile p ↔ mark <:+: text := by
  induction text with
  | nil => rfl
  | cons c rest ih =>
    by_cases taken : p c = true
    · rw [List.dropWhile_cons_of_pos taken, ih, List.infix_cons_iff]
      refine (or_iff_right fun starts => ?_).symm
      -- The mark would begin with a character that is not in it.
      obtain ⟨first, others, rfl⟩ := List.exists_cons_of_ne_nil some
      obtain ⟨rfl, -⟩ := List.cons_prefix_cons.mp starts
      exact absurd taken (by simp [apart first List.mem_cons_self])
    · rw [List.dropWhile_cons_of_neg taken]

/-- A text that is trimmed holds the marks without white space that it held before. -/
theorem infix_trimChars_iff (some : mark ≠ []) (solid : ∀ c ∈ mark, isWhitespace c = false) :
    mark <:+: trimChars text ↔ mark <:+: text := by
  -- The back of a text is the front of its reverse.
  rw [trimChars, ← List.reverse_infix, List.reverse_reverse, infix_dropWhile_iff
    (List.reverse_ne_nil_iff.mpr some) fun c member => solid c (List.mem_reverse.mp member),
    List.reverse_infix, infix_dropWhile_iff some solid]

end Manuscript.Unicode
