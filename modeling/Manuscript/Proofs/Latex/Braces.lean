import Manuscript.Latex.Escape

/-!
Braces as LaTeX reads them: a backslash takes the character behind it with it, and every other brace
opens or closes a group. Texts that leave the groups as they found them, and whose backslashes take
no line feed, make up texts of that kind.
-/

namespace Manuscript

/-- Where a reader of braces stands in a text. -/
inductive Grouping where
  /-- Between two characters, inside of a number of groups. -/
  | inside (groups : Nat)
  /-- Behind a backslash, which takes the next character with it. -/
  | escaping (groups : Nat)
  /-- Behind a brace that closed a group where none was open. -/
  | broken
  deriving DecidableEq

namespace Grouping

/-- Where the reader stands behind one more character. -/
def step : Grouping → Char → Grouping
  | .broken, _ => .broken
  -- The character behind a backslash is no brace, whatever it is.
  | .escaping groups, _ => .inside groups
  | .inside groups, c =>
    if c = '\\' then .escaping groups
    else if c = '\x7b' then .inside (groups + 1)
    else if c = '\x7d' then
      match groups with
      | 0 => .broken
      | outer + 1 => .inside outer
    else .inside groups

/-- Where the reader stands behind a text. -/
def read (place : Grouping) (text : List Char) : Grouping := text.foldl step place

/-- A step of a reader that takes a line feed behind a backslash for an error. -/
def lineStep (place : Grouping) (c : Char) : Grouping :=
  match place with
  | .escaping groups => if c = '\n' then .broken else .inside groups
  | place => place.step c

/-- Where such a reader stands behind a text. -/
def lineRead (place : Grouping) (text : List Char) : Grouping := text.foldl lineStep place

/-- The same place inside of some more groups. -/
def deeper (more : Nat) : Grouping → Grouping
  | .inside groups => .inside (groups + more)
  | .escaping groups => .escaping (groups + more)
  | .broken => .broken

/-- Nothing is read of the empty text. -/
@[simp] theorem lineRead_nil (place : Grouping) : place.lineRead [] = place := rfl

/-- A text is read from its first character on. -/
theorem lineRead_cons (place : Grouping) (c : Char) (rest : List Char) :
    place.lineRead (c :: rest) = (place.lineStep c).lineRead rest := rfl

/-- What follows a text is read from where the text has led. -/
theorem lineRead_append (place : Grouping) (front back : List Char) :
    place.lineRead (front ++ back) = (place.lineRead front).lineRead back := List.foldl_append ..

/-- Behind an error nothing is read. -/
theorem lineRead_broken (text : List Char) : broken.lineRead text = .broken := by
  induction text with
  | nil => rfl
  | cons c rest ih => exact ih

/-- Where no line feed is taken by a backslash, both readers read the same. -/
theorem read_eq_lineRead {place : Grouping} {text : List Char}
    (whole : place.lineRead text ≠ .broken) : place.read text = place.lineRead text := by
  induction text generalizing place with
  | nil => rfl
  | cons c rest ih =>
    -- The steps differ only where the one reader finds an error.
    have sameStep : place.step c = place.lineStep c := by
      cases place with
      | inside groups => rfl
      | broken => rfl
      -- Behind a backslash a line feed is what only one of them refuses.
      | escaping groups =>
        by_cases lineFeed : c = '\n'
        · subst lineFeed
          exact absurd (lineRead_broken rest) whole
        · exact (if_neg lineFeed).symm
    rw [lineRead_cons, ← ih whole, ← sameStep]
    rfl

/-- Groups around a text do not matter to a reader that needs none of them. -/
theorem lineRead_deeper (more : Nat) {place : Grouping} {text : List Char}
    (whole : place.lineRead text ≠ .broken) :
    (place.deeper more).lineRead text = (place.lineRead text).deeper more := by
  induction text generalizing place with
  | nil => rfl
  | cons c rest ih =>
    -- Only a brace that closes nothing is read in another way inside of further groups.
    have sameStep : (place.deeper more).lineStep c = (place.lineStep c).deeper more := by
      cases place with
      | broken => rfl
      | escaping groups =>
        simp only [deeper, lineStep]
        split <;> rfl
      | inside groups =>
        by_cases escape : c = '\\'
        · simp [lineStep, step, deeper, escape]
        -- Each brace changes the count in the same way on both sides.
        by_cases opens : c = '\x7b'
        · simp [lineStep, step, deeper, opens, Nat.add_right_comm]
        by_cases closes : c = '\x7d'
        · subst closes
          cases groups with
          | zero => exact absurd (lineRead_broken rest) whole
          | succ outer => simp [lineStep, step, deeper, Nat.add_right_comm]
        · simp [lineStep, step, deeper, escape, opens, closes]
    rw [lineRead_cons, sameStep, ih whole, lineRead_cons]

end Grouping

/-- Every group of a text is closed in it, no other one is, and no backslash stands at its end. -/
def Balanced (text : String) : Prop := Grouping.read (.inside 0) text.toList = .inside 0

/-- A text that leaves the groups as it found them, and whose backslashes take no line feed. -/
def Settled (text : List Char) : Prop := Grouping.lineRead (.inside 0) text = .inside 0

instance (text : List Char) : Decidable (Settled text) := inferInstanceAs (Decidable (_ = _))

/-- A character that means nothing for groups. -/
def IsPlain (c : Char) : Prop := c ≠ '\\' ∧ c ≠ '\x7b' ∧ c ≠ '\x7d'

instance (c : Char) : Decidable (IsPlain c) := inferInstanceAs (Decidable (_ ∧ _ ∧ _))

section Settled

variable {text front back : List Char}

/-- A settled string is balanced. -/
theorem balanced_of_settled {text : String} (settled : Settled text.toList) : Balanced text := by
  -- A settled text never breaks off, so reading it by lines or in one go comes to the same.
  have whole : Grouping.lineRead (.inside 0) text.toList ≠ .broken := by
    rw [settled]
    exact nofun
  exact (Grouping.read_eq_lineRead whole).trans settled

/-- A settled text leaves any number of groups as it found them. -/
theorem Settled.lineRead (settled : Settled text) (groups : Nat) :
    Grouping.lineRead (.inside groups) text = .inside groups := by
  -- What is not broken at the outermost level is read alike inside of any number of groups.
  have whole : Grouping.lineRead (.inside 0) text ≠ .broken := by
    rw [settled]
    exact nofun
  have inside := Grouping.lineRead_deeper groups whole
  rw [settled] at inside
  simpa [Grouping.deeper] using inside

/-- Nothing is settled. -/
theorem settled_nil : Settled [] := rfl

/-- Settled texts one after another are settled. -/
theorem Settled.append (first : Settled front) (last : Settled back) : Settled (front ++ back) := by
  rw [Settled, Grouping.lineRead_append, first, last]

/-- Settled texts of items one after another are settled. -/
theorem settled_flatMap {α : Type} {items : List α} {write : α → List Char}
    (each : ∀ item ∈ items, Settled (write item)) : Settled (items.flatMap write) := by
  induction items with
  | nil => exact settled_nil
  | cons item rest ih =>
    rw [List.flatMap_cons]
    -- Settled texts one behind the other are settled.
    exact (each item (by simp)).append (ih fun other member => each other (by simp [member]))

/-- A settled text is settled without the line feed at its end. -/
theorem settled_of_append_newline (settled : Settled (text ++ ['\n'])) : Settled text := by
  unfold Settled at settled ⊢
  rw [Grouping.lineRead_append] at settled
  -- The line feed is read between two characters, where it changes nothing.
  cases place : Grouping.lineRead (.inside 0) text with
  | inside groups => rwa [place] at settled
  | escaping groups =>
    rw [place] at settled
    exact nomatch settled
  | broken =>
    rw [place] at settled
    exact nomatch settled

/-- A plain character leaves the groups as they are. -/
theorem settled_singleton {c : Char} (plain : IsPlain c) : Settled [c] := by
  obtain ⟨notEscape, notOpen, notClose⟩ := plain
  simp [Settled, Grouping.lineRead, Grouping.lineStep, Grouping.step, notEscape, notOpen, notClose]

/-- A text of plain characters is settled. -/
theorem settled_of_plain (plain : ∀ c ∈ text, IsPlain c) : Settled text := by
  have each := settled_flatMap fun c member => settled_singleton (plain c member)
  rwa [List.flatMap_singleton'] at each

/-- A character is written settled, reserved or not. -/
theorem settled_escapeChar (c : Char) : Settled (escapeChar c) := by
  unfold escapeChar reservedForm?
  -- Reserved forms are a backslash with one character, or a command and an empty group.
  split
  case h_11 notEscape notOpen notClose _ _ _ _ _ _ _ =>
    exact settled_singleton ⟨notEscape, notOpen, notClose⟩
  all_goals decide

/-- Escaped text is settled, whatever it was before. -/
theorem settled_escapeText (text : String) : Settled (escapeText text).toList := by
  rw [escapeText, String.toList_ofList]
  exact settled_flatMap fun c _ => settled_escapeChar c

end Settled

end Manuscript
