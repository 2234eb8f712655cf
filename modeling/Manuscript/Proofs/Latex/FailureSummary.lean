import Manuscript.Latex.Log
import Mathlib.Data.List.Chain

/-!
What is said of an engine that failed: which lines of the log are repeated, told by their positions.
The positions rise, but for a line that reports an error behind another one: it is repeated with
that one and once more by itself.
-/

namespace Manuscript.Log

/-- The line at a position reports an error. -/
def isErrorAt (lines : List (List Char)) (position : Nat) : Bool := lines[position]?.any isError

/-- The line at a position reports an error, and so does the line in front of it. -/
def isDouble (lines : List (List Char)) : Nat → Bool
  | 0 => false
  | before + 1 => isErrorAt lines before && isErrorAt lines (before + 1)

/-- Positions of lines of a log that are reported, where some of them may be reported twice. -/
structure IsReport (lines : List (List Char)) (twice : Nat → Prop) (positions : List Nat) :
    Prop where
  /-- There are no more than a summary repeats. -/
  bounded : positions.length ≤ summaryLimit
  /-- There are lines at all of them. -/
  within : ∀ position ∈ positions, position < lines.length
  /-- The first one is that of the first error. -/
  first : positions.head? = lines.findIdx? isError
  /-- They rise from each to the next, but for those that come twice. -/
  rises : positions.IsChain fun one next => one < next ∨ one = next ∧ twice one
  /-- Behind an error comes the line that follows it in the log, or first the error once more. -/
  follows : ∀ slot position, positions[slot]? = some position → isErrorAt lines position = true →
    slot + 1 < summaryLimit → position + 1 < lines.length →
      positions[slot + 1]? = some (position + 1) ∨
        twice position ∧ positions[slot + 1]? = some position ∧
          (slot + 2 < summaryLimit → positions[slot + 2]? = some (position + 1))

/-- The summary that repeats the lines at some positions. -/
def summaryOf (engine : LatexEngine) (lines : List (List Char)) (positions : List Nat) : String :=
  engine.name ++ " failed:\n" ++ String.ofList (joinedBy '\n' (positions.filterMap (lines[·]?)))

/-- The positions of the lines that report errors, each with that of the line behind it. -/
def errorPositions : List (List Char) → List Nat
  | [] => []
  | line :: rest =>
    let others := (errorPositions rest).map (· + 1)
    if isError line then 0 :: ((rest.head?.map fun _ => 1).toList ++ others) else others

variable {line : List Char} {lines rest : List (List Char)}

/-- The second line is an error behind another one when it and the first one report errors. -/
@[simp] theorem isDouble_one (next : List Char) :
    isDouble (line :: next :: rest) 1 = (isError line && isError next) := rfl

/-- An error behind another one is behind it with any line before them. -/
theorem isDouble_succ {position : Nat} (double : isDouble rest position = true) :
    isDouble (line :: rest) (position + 1) = true := by
  cases position with
  | zero => cases double
  | succ before => exact double

/-- The lines of a log by what is repeated of them: a line that reports no error, an error on the
last line, and an error with a line behind it, which is looked at once more. -/
@[elab_as_elim] theorem errors_induct {motive : List (List Char) → Prop} (nil : motive [])
    (other : ∀ line rest, isError line = false → motive rest → motive (line :: rest))
    (last : ∀ line, isError line = true → motive [line])
    (pair : ∀ line next more, isError line = true → motive (next :: more) →
      motive (line :: next :: more))
    (lines : List (List Char)) : motive lines := by
  -- The line behind an error is not passed over, so the induction has to go through it too.
  induction lines with
  | nil => exact nil
  | cons line rest ih =>
    cases error : isError line with
    | false => exact other line rest error ih
    | true =>
      cases rest with
      | nil => exact last line error
      | cons next more => exact pair line next more error ih

/-- Behind a line that reports no error there are the positions of the other lines. -/
theorem errorPositions_of_not (other : isError line = false) :
    errorPositions (line :: rest) = (errorPositions rest).map (· + 1) := by
  rw [errorPositions, other]
  rfl

/-- An error on the last line stands by itself. -/
theorem errorPositions_singleton (error : isError line = true) : errorPositions [line] = [0] := by
  rw [errorPositions, if_pos error]
  rfl

/-- The first line that reports an error comes with the second one. -/
theorem errorPositions_of_error (error : isError line = true) (next : List Char) :
    errorPositions (line :: next :: rest) =
      0 :: 1 :: (errorPositions (next :: rest)).map (· + 1) := by
  rw [errorPositions, if_pos error]
  rfl

/-- What is repeated of a log are the lines at these positions. -/
theorem errorLines_eq (lines : List (List Char)) :
    errorLines lines = (errorPositions lines).filterMap (lines[·]?) := by
  -- Positions that are one further on in a log with one more line lead to the same lines.
  have behind (line : List Char) (rest : List (List Char)) :
      ((errorPositions rest).map (· + 1)).filterMap ((line :: rest)[·]?) =
        (errorPositions rest).filterMap (rest[·]?) := by
    rw [List.filterMap_map]
    rfl
  -- The cases follow the summary: an error takes the line behind it along.
  induction lines using errors_induct with
  | nil => rfl
  | other line rest other ih =>
    rw [errorPositions_of_not other, behind, errorLines, other, ih]
    rfl
  | last line error =>
    rw [errorPositions_singleton error, errorLines, if_pos error]
    rfl
  | pair line next more error ih =>
    rw [errorPositions_of_error error, errorLines, if_pos error, ih, ← behind line]
    rfl

/-- There are lines at all of the positions. -/
theorem lt_length_of_mem_errorPositions {position : Nat}
    (member : position ∈ errorPositions lines) : position < lines.length := by
  induction lines using errors_induct generalizing position with
  | nil => cases member
  | other line rest other ih =>
    -- Behind a line that is passed over the positions are one further on.
    rw [errorPositions_of_not other] at member
    obtain ⟨below, inside, rfl⟩ := List.mem_map.mp member
    exact Nat.succ_lt_succ (ih inside)
  | last line error =>
    rw [errorPositions_singleton error, List.mem_singleton] at member
    simp [member]
  | pair line next more error ih =>
    -- An error with a line behind it stands in a log of at least two lines.
    rw [errorPositions_of_error error, List.mem_cons, List.mem_cons] at member
    rcases member with rfl | rfl | later
    · simp
    · simp
    · obtain ⟨below, inside, rfl⟩ := List.mem_map.mp later
      exact Nat.succ_lt_succ (ih inside)

/-- The first position is that of the first line that reports an error. -/
theorem head?_errorPositions (lines : List (List Char)) :
    (errorPositions lines).head? = lines.findIdx? isError := by
  -- The first error stands at its own position, and other lines move all positions on by one.
  induction lines using errors_induct with
  | nil => rfl
  | other line rest other ih =>
    rw [errorPositions_of_not other, List.findIdx?_cons, other, List.head?_map, ih]
    rfl
  | last line error => rw [errorPositions_singleton error, List.findIdx?_cons, if_pos error]; rfl
  | pair line next more error _ =>
    rw [errorPositions_of_error error, List.findIdx?_cons, if_pos error]
    rfl

/-- One position rises to the next, unless it is that of an error behind another one. -/
def Rises (lines : List (List Char)) (one next : Nat) : Prop :=
  one < next ∨ one = next ∧ isDouble lines one = true

/-- Positions behind a line rise as they do without it. -/
theorem isChain_map_succ {positions : List Nat} (rises : positions.IsChain (Rises rest)) :
    (positions.map (· + 1)).IsChain (Rises (line :: rest)) := by
  rw [List.isChain_map]
  refine rises.imp fun one next step => ?_
  -- A line in front moves both positions by one, and the pair of a double error with them.
  rcases step with less | ⟨rfl, double⟩
  · exact .inl (Nat.succ_lt_succ less)
  · exact .inr ⟨rfl, isDouble_succ double⟩

/-- The positions rise. -/
theorem isChain_errorPositions (lines : List (List Char)) :
    (errorPositions lines).IsChain (Rises lines) := by
  induction lines using errors_induct with
  | nil => exact .nil
  | other line rest other ih => exact errorPositions_of_not other ▸ isChain_map_succ ih
  | last line error => exact errorPositions_singleton error ▸ .singleton 0
  | pair line next more error ih =>
    rw [errorPositions_of_error error]
    refine .cons_cons (.inl Nat.zero_lt_one) ((isChain_map_succ ih).cons ?_)
    -- The second line is repeated with the first one, and again if it reports an error itself.
    intro position first
    rw [List.head?_map, head?_errorPositions, List.findIdx?_cons] at first
    cases second : isError next with
    | true =>
      rw [second] at first
      cases first
      exact .inr ⟨rfl, by rw [isDouble_one, error, second]; rfl⟩
    -- If the second line is no error, the next one found stands behind it.
    | false =>
      rw [second, if_neg Bool.false_ne_true, Option.map_map] at first
      obtain ⟨later, -, rfl⟩ := Option.map_eq_some_iff.mp first
      exact .inl (Nat.succ_lt_succ later.succ_pos)

/-- What comes behind an error at a slot: the line that follows it in the log, or the error once
more in front of it. -/
def Follows (lines : List (List Char)) (positions : List Nat) (slot : Nat) : Prop :=
  ∀ position, positions[slot]? = some position → isErrorAt lines position = true →
    position + 1 < lines.length →
      positions[slot + 1]? = some (position + 1) ∨
        isDouble lines position = true ∧ positions[slot + 1]? = some position ∧
          positions[slot + 2]? = some (position + 1)

/-- Behind a line errors are followed as they are without it. -/
theorem Follows.succ {positions : List Nat} {slot : Nat} (follows : Follows rest positions slot) :
    Follows (line :: rest) (positions.map (· + 1)) slot := by
  intro position here error within
  rw [List.getElem?_map] at here
  obtain ⟨below, there, rfl⟩ := Option.map_eq_some_iff.mp here
  -- Either the line behind the error comes next, or the error itself comes once more before it.
  rcases follows below there error (Nat.lt_of_succ_lt_succ within) with next | ⟨double, same, next⟩
  · exact .inl (by rw [List.getElem?_map, next]; rfl)
  · refine .inr ⟨isDouble_succ double, ?_, ?_⟩
    · rw [List.getElem?_map, same]; rfl
    · rw [List.getElem?_map, next]; rfl

/-- Every error is followed by the line behind it. -/
theorem follows_errorPositions (lines : List (List Char)) (slot : Nat) :
    Follows lines (errorPositions lines) slot := by
  induction lines using errors_induct generalizing slot with
  | nil => intro _ here; cases here
  | other line rest other ih => exact errorPositions_of_not other ▸ (ih slot).succ
  -- Behind the last line there is none to follow.
  | last line error =>
    intro position _ _ within
    exact absurd within (Nat.not_lt.mpr (Nat.succ_le_succ (Nat.zero_le position)))
  | pair line next more error ih =>
    rw [errorPositions_of_error error]
    match slot with
    | 0 =>
      intro _ here _ _
      cases here
      exact .inl rfl
    | 1 =>
      -- The second line is here as the one behind the first; as an error it comes next, too.
      intro _ here double within
      cases here
      have second : isError next = true := double
      obtain ⟨third, more, rfl⟩ : ∃ third others, more = third :: others :=
        List.exists_cons_of_length_pos (by simpa using within)
      rw [errorPositions_of_error second]
      exact .inr ⟨by rw [isDouble_one, error, second]; rfl, rfl, rfl⟩
    -- Further on it is as in the log without the first line.
    | slot + 2 => exact (ih slot).succ

/-- The position of the first line is at the first slot only. -/
theorem slot_eq_zero {slot : Nat} (first : (errorPositions lines)[slot]? = some 0) : slot = 0 := by
  -- The positions of what follows a line are moved on by one, so that none of them is the first.
  have behind {rest : List (List Char)} {slot : Nat} :
      ((errorPositions rest).map (· + 1))[slot]? ≠ some 0 := by
    rw [List.getElem?_map]
    intro shifted
    obtain ⟨_, -, zero⟩ := Option.map_eq_some_iff.mp shifted
    cases zero
  induction lines using errors_induct with
  | nil => cases first
  | other line rest other _ => exact absurd (errorPositions_of_not other ▸ first) behind
  | last line error =>
    rw [errorPositions_singleton error] at first
    exact Nat.lt_one_iff.mp (List.getElem?_eq_some_iff.mp first).1
  | pair line next more error _ =>
    rw [errorPositions_of_error error] at first
    match slot with
    | 0 => rfl
    -- The slot behind the first error holds the second line.
    | 1 => cases first
    | slot + 2 => exact absurd first behind

/-- The slot of an error behind another one lies next to one with the same position. -/
def IsTwice (positions : List Nat) (slot position : Nat) : Prop :=
  positions[slot + 1]? = some position ∨
    ∃ before, slot = before + 1 ∧ positions[before]? = some position

/-- What is there twice is so behind a line. -/
theorem IsTwice.succ {positions : List Nat} {slot position : Nat}
    (again : IsTwice positions slot position) :
    IsTwice (positions.map (· + 1)) slot (position + 1) := by
  -- The same two slots hold it, moved on by one.
  rcases again with again | ⟨before, rfl, again⟩
  · exact .inl (by rw [List.getElem?_map, again]; rfl)
  · exact .inr ⟨before, rfl, by rw [List.getElem?_map, again]; rfl⟩

/-- An error behind another one is there twice, at two slots next to each other. -/
theorem isTwice_of_isDouble {slot position : Nat}
    (here : (errorPositions lines)[slot]? = some position)
    (double : isDouble lines position = true) : IsTwice (errorPositions lines) slot position := by
  induction lines using errors_induct generalizing slot position with
  | nil => cases here
  | other line rest other ih =>
    rw [errorPositions_of_not other] at here ⊢
    rw [List.getElem?_map] at here
    obtain ⟨below, there, rfl⟩ := Option.map_eq_some_iff.mp here
    match below with
    | 0 =>
      -- The line behind one that reports no error is not behind an error.
      rw [isDouble, isErrorAt, Bool.and_eq_true] at double
      exact absurd double.1 (Bool.eq_false_iff.mp other)
    | below + 1 => exact (ih there double).succ
  -- An error in the last line has no line behind it that could be double.
  | last line error =>
    have within := lt_length_of_mem_errorPositions (List.mem_of_getElem? here)
    obtain rfl : position = 0 := Nat.lt_one_iff.mp within
    -- The first line of all has no line before it.
    cases double
  | pair line next more error ih =>
    rw [errorPositions_of_error error] at here ⊢
    match slot with
    | 0 =>
      cases here
      cases double
    | 1 =>
      -- The second line came with the first, and as an error it is the first of what follows.
      cases here
      have second : isError next = true := by simpa [error] using double
      have first : (errorPositions (next :: more)).head? = some 0 := by
        rw [head?_errorPositions, List.findIdx?_cons, if_pos second]
      left
      rw [List.getElem?_cons_succ, List.getElem?_cons_succ, ← List.head?_eq_getElem?,
        List.head?_map, first]
      rfl
    | slot + 2 =>
      rw [List.getElem?_cons_succ, List.getElem?_cons_succ, List.getElem?_map] at here
      obtain ⟨below, there, rfl⟩ := Option.map_eq_some_iff.mp here
      match below with
      | 0 =>
        -- By itself the second line stands right behind where it came with the first.
        obtain rfl := slot_eq_zero there
        exact .inr ⟨1, rfl, rfl⟩
      | below + 1 =>
        rcases (ih there double).succ with again | ⟨before, rfl, again⟩
        · exact .inl again
        · exact .inr ⟨before + 2, rfl, again⟩

/-- Where lines report errors there is something to repeat. -/
theorem errorLines_ne_nil (failed : ∃ line ∈ lines, isError line = true) :
    errorLines lines ≠ [] := by
  obtain ⟨line, member, error⟩ := failed
  -- The first line is repeated if it reports an error, and otherwise those behind it are.
  induction lines with
  | nil => cases member
  | cons first rest ih =>
    rw [errorLines]
    split
    · exact List.cons_ne_nil _ _
    · rename_i other
      rcases List.mem_cons.mp member with rfl | behind
      · exact absurd error other
      · exact ih behind

/-- The first of the repeated lines are those at the first of the positions. -/
theorem take_errorLines (lines : List (List Char)) (count : Nat) :
    (errorLines lines).take count = ((errorPositions lines).take count).filterMap (lines[·]?) := by
  -- As there is a line at each position, looking them up keeps their number.
  have present : ∀ position ∈ errorPositions lines,
      lines[position]? = some (lines.getD position []) := by
    intro position member
    have within := lt_length_of_mem_errorPositions member
    rw [List.getD_eq_getElem?_getD, List.getElem?_eq_getElem within]
    rfl
  have each {positions : List Nat}
      (inside : ∀ position ∈ positions, position ∈ errorPositions lines) :
      positions.filterMap (lines[·]?) = positions.map (lines.getD · []) := by
    rw [List.filterMap_congr fun position member => present position (inside position member)]
    exact congrFun List.filterMap_eq_map' positions
  rw [errorLines_eq, each fun _ member => member, each fun _ => List.mem_of_mem_take, List.map_take]

/-- Where no line is repeated twice a position is in front of that at the next slot. -/
theorem IsReport.lt {positions : List Nat} {slot one next : Nat}
    (strict : IsReport lines (fun _ => False) positions) (here : positions[slot]? = some one)
    (behind : positions[slot + 1]? = some next) : one < next := by
  obtain ⟨_, rfl⟩ := List.getElem?_eq_some_iff.mp here
  obtain ⟨within, rfl⟩ := List.getElem?_eq_some_iff.mp behind
  -- In a strict report nothing may stay as it is.
  exact (List.isChain_iff_getElem.mp strict.rises slot within).resolve_right And.right

/-- What stands at a slot of a cut list that has a slot behind it is not the last of it. -/
theorem mem_dropLast {positions : List Nat} {slot position : Nat}
    (here : positions[slot]? = some position) (behind : slot + 1 < positions.length) :
    position ∈ positions.dropLast := by
  refine List.mem_of_getElem? (i := slot) ?_
  rw [List.getElem?_dropLast, if_pos (Nat.lt_sub_of_add_lt behind), here]

/-- The positions of the lines that are repeated make up a report. -/
theorem isReport_take (lines : List (List Char)) :
    IsReport lines (isDouble lines · = true) ((errorPositions lines).take summaryLimit) where
  bounded := List.length_take_le ..
  within _ member := lt_length_of_mem_errorPositions (List.mem_of_mem_take member)
  first := by rw [List.head?_take, if_neg (by decide), head?_errorPositions]
  rises := (isChain_errorPositions lines).take summaryLimit
  follows := by
    intro slot position here error room within
    -- Up to the limit the positions are those of all errors, so each fact about these is kept.
    rw [List.getElem?_take_of_lt (Nat.lt_of_succ_lt room)] at here
    rw [List.getElem?_take_of_lt room]
    rcases follows_errorPositions lines slot position here error within with
      next | ⟨double, same, next⟩
    · exact .inl next
    · refine .inr ⟨double, same, fun room => ?_⟩
      rw [List.getElem?_take_of_lt room, next]

/-- Positions that make up a report rise from each to the next throughout where none but the last of
them is that of an error behind another one, and only there. -/
theorem isReport_iff (lines : List (List Char)) :
    IsReport lines (fun _ => False) ((errorPositions lines).take summaryLimit) ↔
      ∀ position ∈ ((errorPositions lines).take summaryLimit).dropLast,
        isDouble lines position = false := by
  have report := isReport_take lines
  constructor
  · intro strict position member
    obtain ⟨slot, here⟩ := List.mem_iff_getElem?.mp member
    rw [List.getElem?_dropLast, Option.ite_none_right_eq_some] at here
    obtain ⟨behind, here⟩ := here
    have inside : slot + 1 < summaryLimit :=
      lt_of_lt_of_le (Nat.add_lt_of_lt_sub behind) report.bounded
    by_contra double
    have there := here
    rw [List.getElem?_take_of_lt (Nat.lt_of_succ_lt inside)] at there
    -- The line stands at one of the slots next to this one, too.
    rcases isTwice_of_isDouble there (Bool.not_eq_false _ ▸ double) with
      again | ⟨before, rfl, again⟩
    · rw [← List.getElem?_take_of_lt inside] at again
      exact Nat.lt_irrefl position (strict.lt here again)
    · have near : before < summaryLimit := by omega
      rw [← List.getElem?_take_of_lt near] at again
      exact Nat.lt_irrefl position (strict.lt again here)
  · -- Where positions do not rise, or an error is not followed at once, the line comes twice.
    intro single
    refine ⟨report.bounded, report.within, report.first, ?_, ?_⟩
    · -- Two slots that are alike would hold a line that is double.
      rw [List.isChain_iff_getElem]
      intro slot behind
      rcases List.isChain_iff_getElem.mp report.rises slot behind with less | ⟨same, double⟩
      · exact .inl less
      · have here := List.getElem?_eq_getElem (Nat.lt_of_succ_lt behind)
        exact absurd double (Bool.eq_false_iff.mp (single _ (mem_dropLast here behind)))
    · -- So would a line that is reported again before the one behind it.
      intro slot position here error room within
      rcases report.follows slot position here error room within with next | ⟨double, same, -⟩
      · exact .inl next
      · have behind := (List.getElem?_eq_some_iff.mp same).1
        exact absurd double (Bool.eq_false_iff.mp (single _ (mem_dropLast here behind)))

/-- What is said of a failed engine repeats the first errors of its log, each with the line behind
it. The positions of the lines rise, but that an error behind another one is repeated twice: with
that one, and by itself. They rise throughout only where no line but the last is such an error. -/
theorem failureSummary_reports (engine : LatexEngine) (log : List Char)
    (failed : ∃ line ∈ logLines log, isError line = true) :
    ∃ positions, failureSummary engine log = summaryOf engine (logLines log) positions ∧
      IsReport (logLines log) (isDouble (logLines log) · = true) positions ∧
      (IsReport (logLines log) (fun _ => False) positions ↔
        ∀ position ∈ positions.dropLast, isDouble (logLines log) position = false) := by
  refine ⟨(errorPositions (logLines log)).take summaryLimit, ?_, isReport_take _, isReport_iff _⟩
  rw [summaryOf, ← take_errorLines, failureSummary]
  -- As an error was reported there is something to say, and the summary does not fall back.
  cases repeated : (errorLines (logLines log)).take summaryLimit with
  | cons first others => rfl
  | nil =>
    rcases List.take_eq_nil_iff.mp repeated with none | none
    · cases none
    · exact absurd none (errorLines_ne_nil failed)

/-- A log with two errors one behind the other, and one with nothing behind it. -/
theorem failureSummary_reports_threeErrors :
    let log := "This is\n! Undefined.\n! Missing.\nl.3 \\x\nmore\n! Stop.".toList
    (∃ line ∈ logLines log, isError line = true) ∧
      failureSummary .xelatex log =
        "xelatex failed:\n! Undefined.\n! Missing.\n! Missing.\nl.3 \\x\n! Stop." ∧
      ∃ positions, failureSummary .xelatex log = summaryOf .xelatex (logLines log) positions ∧
        IsReport (logLines log) (isDouble (logLines log) · = true) positions ∧
        (IsReport (logLines log) (fun _ => False) positions ↔
          ∀ position ∈ positions.dropLast, isDouble (logLines log) position = false) := by
  intro log
  -- The second error stands right behind the first one and is said twice.
  have failed : ∃ line ∈ logLines log, isError line = true := by decide
  exact ⟨failed, by decide, failureSummary_reports .xelatex log failed⟩

/-- An error right behind another one is repeated twice: no rising positions make up what is
said. -/
theorem not_failureSummary_rises :
    ¬ ∃ positions,
      failureSummary .xelatex "! a\n! b\nc\n".toList =
          summaryOf .xelatex (logLines "! a\n! b\nc\n".toList) positions ∧
        IsReport (logLines "! a\n! b\nc\n".toList) (fun _ => False) positions := by
  rintro ⟨positions, said, strict⟩
  have lines : logLines "! a\n! b\nc\n".toList =
      ["! a".toList, "! b".toList, "c".toList] := by decide
  rw [lines] at said strict
  -- Both errors have to be followed at once, so that each line is there once.
  have first : positions[0]? = some 0 := by
    rw [← List.head?_eq_getElem?, strict.first]
    decide
  have second : positions[1]? = some 1 :=
    (strict.follows 0 0 first (by decide) (by decide) (by decide)).resolve_right And.left
  have third : positions[2]? = some 2 :=
    (strict.follows 1 1 second (by decide) (by decide) (by decide)).resolve_right And.left
  -- There is no line behind the third one.
  have rest : positions[3]? = none := by
    by_contra more
    obtain ⟨fourth, more⟩ := Option.ne_none_iff_exists'.mp more
    have := strict.lt third more
    have := strict.within fourth (List.mem_of_getElem? more)
    simp at this
    omega
  -- So the positions are the three in order, and the summary has four lines.
  obtain rfl : positions = [0, 1, 2] := by
    refine List.ext_getElem? fun slot => ?_
    match slot with
    | 0 => exact first
    | 1 => exact second
    | 2 => exact third
    | slot + 3 =>
      exact List.getElem?_eq_none (Nat.le_trans (List.getElem?_eq_none_iff.mp rest) (by omega))
  exact absurd said (by decide)

end Manuscript.Log
