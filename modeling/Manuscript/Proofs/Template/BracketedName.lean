import Manuscript.Template.Basic
import Mathlib.Data.List.TakeWhile

/-!
Where names stand in angle brackets inside a text. No two of them overlap, so a text is read from
its front: at each place it goes on with a bracketed name or with a single character.
-/

namespace Manuscript

/-- A name that may stand in angle brackets: small letters and underscores, at least one. -/
def IsBracketName (name : List Char) : Prop :=
  name ≠ [] ∧ ∀ c ∈ name, ('a' ≤ c ∧ c ≤ 'z') ∨ c = '_'

/-- The text has a name in angle brackets at a position. -/
def NameAt (text : List Char) (position : Nat) (name : List Char) : Prop :=
  IsBracketName name ∧ ∃ after, text.drop position = '<' :: (name ++ '>' :: after)

/-- The characters of names are the small letters and the underscore. -/
theorem isNameChar_iff {c : Char} : isNameChar c = true ↔ ('a' ≤ c ∧ c ≤ 'z') ∨ c = '_' := by
  show ((decide ('a'.val ≤ c.val) && decide (c.val ≤ 'z'.val)) || decide (c = '_')) = true ↔ _
  simp [Char.le_def]

/-- A closing bracket cannot be a part of a name. -/
theorem isNameChar_close : isNameChar '>' = false := by decide

/-- An opening bracket cannot be a part of a name. -/
theorem isNameChar_open : isNameChar '<' = false := by decide

/-- A name is a text of name characters only. -/
theorem IsBracketName.isNameChar {name : List Char} (valid : IsBracketName name) :
    ∀ c ∈ name, isNameChar c = true :=
  fun c member => isNameChar_iff.mpr (valid.2 c member)

/-- A name has no opening bracket in it. -/
theorem IsBracketName.open_not_mem {name : List Char} (valid : IsBracketName name) :
    '<' ∉ name := by
  intro member
  -- A name is made of name characters, and a bracket is none of them.
  have named := valid.isNameChar '<' member
  rw [isNameChar_open] at named
  exact Bool.false_ne_true named

/-- Up to the first character outside of it, a class takes exactly the characters in front. -/
private theorem takeWhile_stops {p : Char → Bool} {name : List Char} {stop : Char}
    (inside : ∀ c ∈ name, p c = true) (outside : p stop = false) (after : List Char) :
    (name ++ stop :: after).takeWhile p = name ∧
      (name ++ stop :: after).dropWhile p = stop :: after := by
  rw [List.takeWhile_append_of_pos inside, List.dropWhile_append_of_pos inside]
  simp [outside]

/-- A bracketed name is found at the front of a text exactly when the text starts with one. -/
theorem bracketedName?_eq_some_iff {text name after : List Char} :
    bracketedName? text = some (name, after) ↔
      IsBracketName name ∧ text = '<' :: (name ++ '>' :: after) := by
  constructor
  · intro found
    unfold bracketedName? at found
    split at found
    case h_2 => simp at found
    rename_i rest
    -- The name is what a scan for name characters takes, and the bracket is what stops it.
    split at found
    · simp at found
    · rename_i behind dropping nonempty
      simp only [Option.some.injEq, Prod.mk.injEq] at found
      obtain ⟨rfl, rfl⟩ := found
      refine ⟨⟨nonempty, fun c member => ?_⟩, ?_⟩
      · exact isNameChar_iff.mp (List.mem_takeWhile_imp member)
      · rw [← dropping, List.takeWhile_append_dropWhile]
    · simp at found
  · -- The other way round, the scan stops at the closing bracket and nowhere before it.
    rintro ⟨valid, rfl⟩
    obtain ⟨taking, dropping⟩ := takeWhile_stops valid.isNameChar isNameChar_close after
    simp only [bracketedName?, taking, dropping]
    cases name with
    | nil => exact absurd rfl valid.1
    | cons c rest => rfl

/-- A name at the front of a text is what is found there. -/
theorem nameAt_zero_iff {text name : List Char} :
    NameAt text 0 name ↔ ∃ after, bracketedName? text = some (name, after) := by
  simp only [NameAt, List.drop_zero, bracketedName?_eq_some_iff, exists_and_left]

/-- Behind its first character a text has the names that it has one position further on. -/
theorem nameAt_cons_succ {c : Char} {rest name : List Char} {position : Nat} :
    NameAt (c :: rest) (position + 1) name ↔ NameAt rest position name := by
  simp only [NameAt, List.drop_succ_cons]

/-- An opening bracket stands wherever a bracketed name does. -/
theorem NameAt.getElem?_open {text name : List Char} {position : Nat}
    (found : NameAt text position name) : text[position]? = some '<' := by
  obtain ⟨-, after, split⟩ := found
  rw [← List.head?_drop, split]
  rfl

/-- A text has no bracketed name behind its end. -/
theorem NameAt.lt_length {text name : List Char} {position : Nat}
    (found : NameAt text position name) : position < text.length :=
  (List.getElem?_eq_some_iff.mp found.getElem?_open).1

/-- Two names do not stand at one position. -/
theorem NameAt.unique {text name other : List Char} {position : Nat}
    (found : NameAt text position name) (again : NameAt text position other) : name = other := by
  -- Both are what is found at the front of the same rest.
  have front : ∀ {n}, NameAt text position n →
      ∃ after, bracketedName? (text.drop position) = some (n, after) := by
    rintro n ⟨valid, after, split⟩
    exact ⟨after, bracketedName?_eq_some_iff.mpr ⟨valid, split⟩⟩
  obtain ⟨after, here⟩ := front found
  obtain ⟨behind, there⟩ := front again
  rw [here] at there
  simp only [Option.some.injEq, Prod.mk.injEq] at there
  exact there.1

/-- The names of a text that starts with one: that name, and those behind its closing bracket. -/
theorem nameAt_bracket_iff {name after other : List Char} {position : Nat}
    (valid : IsBracketName name) :
    NameAt ('<' :: (name ++ '>' :: after)) position other ↔
      (position = 0 ∧ other = name) ∨
        ∃ later, position = name.length + 2 + later ∧ NameAt after later other := by
  -- The first name stands at the start, and behind it the text goes on as it does by itself.
  have first : NameAt ('<' :: (name ++ '>' :: after)) 0 name := ⟨valid, after, rfl⟩
  have behind (later : Nat) : ('<' :: (name ++ '>' :: after)).drop (name.length + 2 + later) =
      after.drop later := by
    rw [show name.length + 2 + later = (name.length + (later + 1)) + 1 by omega,
      List.drop_succ_cons, List.drop_append, List.drop_of_length_le (by omega),
      Nat.add_sub_cancel_left]
    simp
  constructor
  · intro found
    by_cases start : position = 0
    · subst start
      exact .inl ⟨rfl, found.unique first⟩
    right
    rcases Nat.lt_or_ge position (name.length + 2) with inside | outside
    · -- Inside of the first name there is no opening bracket.
      exfalso
      obtain ⟨before, rfl⟩ := Nat.exists_eq_succ_of_ne_zero start
      have bracket := found.getElem?_open
      rw [Nat.succ_eq_add_one, List.getElem?_cons_succ] at bracket
      rcases Nat.lt_or_ge before name.length with within | past
      · rw [List.getElem?_append_left within] at bracket
        exact valid.open_not_mem (List.mem_of_getElem? bracket)
      · have closing : before = name.length := by omega
        simp [closing] at bracket
    · obtain ⟨later, rfl⟩ := Nat.exists_eq_add_of_le outside
      refine ⟨later, rfl, found.1, ?_⟩
      rw [← behind later]
      exact found.2
  · rintro (⟨rfl, rfl⟩ | ⟨later, rfl, found⟩)
    · exact first
    · refine ⟨found.1, ?_⟩
      rw [behind later]
      exact found.2

/--
A text read from its front: it is empty, or goes on behind a bracketed name, or goes on behind a
character at which no bracketed name starts.
-/
theorem bracket_induction {motive : List Char → Prop} (nil : motive [])
    (bracket : ∀ name after, IsBracketName name → motive after →
      motive ('<' :: (name ++ '>' :: after)))
    (char : ∀ c rest, bracketedName? (c :: rest) = none → motive rest → motive (c :: rest))
    (text : List Char) : motive text := by
  -- Every step leaves a shorter text behind.
  induction size : text.length using Nat.strongRecOn generalizing text with
  | _ size ih =>
    cases text with
    | nil => exact nil
    | cons c rest =>
      cases found : bracketedName? (c :: rest) with
      | none => exact char c rest found (ih rest.length (by simp [← size]) rest rfl)
      | some split =>
        -- A bracketed name is a single step, however long it is.
        obtain ⟨name, after⟩ := split
        have shorter := bracketedName?_shorter found
        obtain ⟨valid, whole⟩ := bracketedName?_eq_some_iff.mp found
        rw [whole]
        exact bracket name after valid (ih after.length (size ▸ shorter) after rfl)

end Manuscript
