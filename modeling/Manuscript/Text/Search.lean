/-! Finding one text inside another, and cutting a text into lines. -/

namespace Manuscript

/-- The text that follows a given start, when the text starts so. -/
def afterStart? (start : List Char) (text : List Char) : Option (List Char) :=
  start.isPrefixOf? text

/-- What stands before and after the first occurrence of a needle. -/
def cutAt? (needle : List Char) : List Char → Option (List Char × List Char)
  | [] => if needle.isEmpty then some ([], []) else none
  | c :: rest =>
    match afterStart? needle (c :: rest) with
    | some after => some ([], after)
    | none => (cutAt? needle rest).map fun parts => (c :: parts.1, parts.2)

/-- A needle occurs somewhere in a text. -/
def occursIn (needle : List Char) : List Char → Bool
  | [] => needle.isEmpty
  | c :: rest => needle.isPrefixOf (c :: rest) || occursIn needle rest

/-- The pieces of a text between the occurrences of a separating character. -/
def piecesAt (mark : Char) : List Char → List (List Char)
  | [] => [[]]
  | c :: rest =>
    if c = mark then [] :: piecesAt mark rest
    else
      match piecesAt mark rest with
      | piece :: pieces => (c :: piece) :: pieces
      | [] => [[c]]

/-- The pieces between separators, joined by a character again. -/
def joinedBy (mark : Char) : List (List Char) → List Char
  | [] => []
  | [piece] => piece
  | piece :: pieces => piece ++ mark :: joinedBy mark pieces

/-- A line without the carriage return that may end it. -/
def dropReturn : List Char → List Char
  | [] => []
  | ['\r'] => []
  | c :: rest => c :: dropReturn rest

/--
The lines of a log: they end at line feeds, and a line feed at the end opens no further line. A
carriage return is a part of the line end only in front of a line feed.
-/
def logLines (text : List Char) : List (List Char) :=
  let pieces := piecesAt '\n' text
  let ended := pieces.dropLast.map dropReturn
  match pieces.getLast? with
  -- The text ends with a line feed.
  | some [] | none => ended
  | some last => ended ++ [last]

/-- A needle occurs in a text when it is one of the runs of characters in it. -/
theorem occursIn_iff (needle text : List Char) :
    occursIn needle text = true ↔ needle <:+: text := by
  -- A run either starts at the first character or lies behind it.
  induction text with
  | nil => simp [occursIn]
  | cons c rest ih => simp [occursIn, ih, List.infix_cons_iff]

/-- A start and what follows it make up the text. -/
theorem eq_of_afterStart? {start text after : List Char}
    (found : afterStart? start text = some after) : text = start ++ after := by
  -- The two are compared character by character.
  induction start generalizing text with
  | nil => exact Option.some.inj found
  | cons s start ih =>
    cases text with
    | nil => exact nomatch (found : none = some after)
    | cons c text =>
      change (if s == c then afterStart? start text else none) = some after at found
      split at found
      · rename_i same
        simp only [beq_iff_eq] at same
        rw [same, ih found, List.cons_append]
      · simp at found

/-- What a text is cut into makes up the text, with the needle between the two parts. -/
theorem eq_of_cutAt? {needle text before after : List Char}
    (cut : cutAt? needle text = some (before, after)) : text = before ++ needle ++ after := by
  -- Characters are passed over one by one until the needle is in front.
  induction text generalizing before with
  | nil =>
    simp only [cutAt?] at cut
    split at cut <;> simp_all
  | cons c rest ih =>
    simp only [cutAt?] at cut
    split at cut
    · rename_i behind found
      simp only [Option.some.injEq, Prod.mk.injEq] at cut
      rw [← cut.1, ← cut.2, List.nil_append, eq_of_afterStart? found]
    · simp only [Option.map_eq_some_iff, Prod.mk.injEq, Prod.exists] at cut
      obtain ⟨front, back, inner, rfl, rfl⟩ := cut
      simp [ih inner]

/-- A text has at least one piece. -/
theorem piecesAt_ne_nil (mark : Char) (text : List Char) : piecesAt mark text ≠ [] := by
  cases text with
  | nil => simp [piecesAt]
  | cons c rest =>
    unfold piecesAt
    split
    · simp
    · split <;> simp

/-- Cutting at a separator and joining by it gives the text back. -/
theorem joinedBy_piecesAt (mark : Char) (text : List Char) :
    joinedBy mark (piecesAt mark text) = text := by
  -- A separator opens a new piece and any other character extends the first one.
  induction text with
  | nil => rfl
  | cons c rest ih =>
    have nonempty := piecesAt_ne_nil mark rest
    unfold piecesAt
    split
    · rename_i same
      subst same
      cases pieces : piecesAt c rest with
      | nil => exact absurd pieces nonempty
      | cons piece more => rw [pieces] at ih; simp [joinedBy, ih]
    · cases pieces : piecesAt mark rest with
      | nil => exact absurd pieces nonempty
      | cons piece more =>
        rw [pieces] at ih
        cases more <;> simp_all [joinedBy]

end Manuscript
