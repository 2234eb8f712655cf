import Manuscript.Proofs.Latex.LogBytes
import Manuscript.Proofs.Path.Steps
import Manuscript.Proofs.Text.Trimming

/-!
The warnings of a log. Each text that a line warns with is there once, in the order of the lines
that it is first found on; and what is reported, taken as a log, warns of the same again.
-/

namespace Manuscript

/-- No piece of a text has the separator in it. -/
theorem notMem_of_mem_piecesAt {mark : Char} {text piece : List Char}
    (member : piece ∈ piecesAt mark text) : mark ∉ piece := by
  -- At a separator a new piece begins, and any other character goes to the first piece.
  induction text generalizing piece with
  | nil =>
    obtain rfl := List.mem_singleton.mp member
    exact List.not_mem_nil
  | cons c rest ih =>
    rw [piecesAt] at member
    split at member
    · rcases List.mem_cons.mp member with rfl | later
      · exact List.not_mem_nil
      · exact ih later
    · rename_i other
      split at member
      · -- The character is added to the first piece, and is not the separator.
        rename_i first more pieces
        rcases List.mem_cons.mp member with rfl | later
        · have whole : mark ∉ first := ih (pieces ▸ List.mem_cons_self)
          exact List.not_mem_cons_of_ne_of_not_mem (Ne.symm other) whole
        · exact ih (pieces ▸ List.mem_cons_of_mem first later)
      · obtain rfl := List.mem_singleton.mp member
        exact fun same => other (List.mem_singleton.mp same).symm

/-- Pieces without the separator are found again where they are joined by it. -/
theorem piecesAt_joinedBy {mark : Char} {pieces : List (List Char)} (some : pieces ≠ [])
    (whole : ∀ piece ∈ pieces, mark ∉ piece) : piecesAt mark (joinedBy mark pieces) = pieces := by
  induction pieces with
  | nil => exact absurd rfl some
  | cons piece rest ih =>
    obtain ⟨here, others⟩ := List.forall_mem_cons.mp whole
    -- The first separator stands behind the first piece, as there is none in it.
    cases rest with
    | nil => exact piecesAt_of_notMem here
    | cons next rest =>
      rw [joinedBy, piecesAt_append, piecesAt_of_notMem here, ih (List.cons_ne_nil _ _) others]
      rfl
      exact List.cons_ne_nil _ _

/-- A line that does not end in a carriage return is kept. -/
theorem dropReturn_eq_self {line : List Char} (other : line.getLast? ≠ some '\r') :
    dropReturn line = line := by
  -- Only a carriage return at the end is ever dropped.
  rcases Log.dropReturn_cases line with same | returned
  · exact same.symm
  · rw [returned, List.getLast?_concat] at other
    exact absurd rfl other

/-- What is left of a line without its carriage return was in it. -/
theorem dropReturn_prefix (line : List Char) : dropReturn line <+: line := by
  rcases Log.dropReturn_cases line with same | returned
  · exact ⟨[], (List.append_nil _).trans same.symm⟩
  · exact ⟨['\r'], returned.symm⟩

/-- No line of a log has a line feed in it. -/
theorem notMem_of_mem_logLines {text line : List Char} (member : line ∈ logLines text) :
    '\n' ∉ line := by
  -- Only a carriage return is taken off a piece, and that adds no line feed.
  have ended : ∀ line ∈ (piecesAt '\n' text).dropLast.map dropReturn, '\n' ∉ line := by
    intro line member
    obtain ⟨piece, inside, rfl⟩ := List.mem_map.mp member
    have whole := notMem_of_mem_piecesAt (List.mem_of_mem_dropLast inside)
    have front := dropReturn_prefix piece
    exact fun found => whole (front.subset found)
  unfold logLines at member
  dsimp only at member
  split at member
  · exact ended line member
  · exact ended line member
  · rename_i last _ stands
    -- The last piece is a line of its own, with its carriage return kept.
    rcases List.mem_append.mp member with front | back
    · exact ended line front
    · rw [List.mem_singleton.mp back]
      exact notMem_of_mem_piecesAt (List.mem_of_getLast? stands)

/-- Lines joined by line feeds are the lines of the text, when none is empty or ends in a carriage
return. -/
theorem logLines_joinedBy {lines : List (List Char)} (whole : ∀ line ∈ lines, '\n' ∉ line)
    (some : ∀ line ∈ lines, line ≠ []) (kept : ∀ line ∈ lines, dropReturn line = line) :
    logLines (joinedBy '\n' lines) = lines := by
  rcases List.eq_nil_or_concat lines with rfl | ⟨front, last, rfl⟩
  · rfl
  -- The last line is not empty, so that there is no empty piece behind the last line feed.
  rw [List.concat_eq_append] at whole some kept ⊢
  have pieces : piecesAt '\n' (joinedBy '\n' (front ++ [last])) = front ++ [last] :=
    piecesAt_joinedBy (List.append_ne_nil_of_right_ne_nil _ (List.cons_ne_nil _ _)) whole
  have ended : front.map dropReturn = front :=
    List.map_congr_left (fun line member => kept line (List.mem_append_left _ member)) |>.trans
      (List.map_id front)
  obtain ⟨c, rest, rfl⟩ := List.exists_cons_of_ne_nil (some last List.mem_concat_self)
  unfold logLines
  dsimp only
  rw [pieces, List.dropLast_concat, List.getLast?_concat, ended]

namespace Log

/-- A line of a log warns of something: one of the two marks stands in it. -/
def Warns (line : List Char) : Prop :=
  "Warning:".toList <:+: line ∨ "warning:".toList <:+: line

/-- A line is taken for a warning when it warns of something. -/
theorem isWarning_iff (line : List Char) : isWarning line = true ↔ Warns line := by
  simp only [isWarning, warningMarkers, List.any_cons, List.any_nil, Bool.or_false, Bool.or_eq_true,
    occursIn_iff, Warns]

/-- The marks of warnings have no white space in them. -/
theorem warningMarkers_solid :
    ∀ marker ∈ warningMarkers, marker.toList ≠ [] ∧
      ∀ c ∈ marker.toList, Unicode.isWhitespace c = false := by
  -- There are few markers, and each can be looked through.
  have each : warningMarkers.all fun marker =>
      !marker.toList.isEmpty && marker.toList.all fun c => !Unicode.isWhitespace c := by decide
  simpa only [List.all_eq_true, Bool.and_eq_true, Bool.not_eq_true', List.isEmpty_eq_false_iff]
    using each

/-- A line warns of something with the white space around it and without. -/
theorem warns_trimChars_iff (line : List Char) : Warns (Unicode.trimChars line) ↔ Warns line := by
  have solid := warningMarkers_solid
  simp only [warningMarkers, List.forall_mem_cons] at solid
  obtain ⟨⟨some, upper⟩, ⟨some', lower⟩, -⟩ := solid
  exact or_congr (Unicode.infix_trimChars_iff some upper) (Unicode.infix_trimChars_iff some' lower)

/-- The texts that the lines of a log warn with, one for each line that does. -/
def warningTexts (lines : List (List Char)) : List (List Char) :=
  (lines.filter isWarning).map Unicode.trimChars

/-- The place of the first of some lines that warns with a text. -/
def firstPlace (lines : List (List Char)) (text : List Char) : Nat :=
  lines.findIdx fun line => isWarning line && Unicode.trimChars line == text

/-- What is distinct was there, and was not seen before. -/
theorem mem_distinct {seen lines : List (List Char)} {line : List Char} :
    line ∈ distinct seen lines ↔ line ∈ lines ∧ line ∉ seen := by
  induction lines generalizing seen with
  | nil => simp [distinct]
  | cons first rest ih =>
    simp only [distinct, List.contains_iff_mem]
    split
    · rename_i again
      rw [ih, List.mem_cons]
      -- The first one is left out, but it was seen before.
      grind
    · rename_i fresh
      rw [List.mem_cons, ih, List.mem_append, List.mem_singleton, List.mem_cons]
      grind

/-- Lines that differ from each other and from those before them are all kept. -/
theorem distinct_eq_self {seen lines : List (List Char)} (apart : (seen ++ lines).Nodup) :
    distinct seen lines = lines := by
  induction lines generalizing seen with
  | nil => rfl
  | cons first rest ih =>
    -- The first line was not seen before, or it would be there twice.
    have fresh : ¬ seen.contains first = true := by
      rw [List.contains_iff_mem]
      exact fun again => (List.nodup_append.mp apart).2.2 _ again _ List.mem_cons_self rfl
    rw [distinct, if_neg fresh, ih (by rwa [List.append_assoc])]

/-- A line that does not warn with a text is passed over where its first place is looked for. -/
theorem firstPlace_cons_of_ne {line text : List Char} {rest : List (List Char)}
    (other : isWarning line = true → Unicode.trimChars line ≠ text) :
    firstPlace (line :: rest) text = firstPlace rest text + 1 := by
  -- The first line is none that is looked for.
  have passed : (isWarning line && Unicode.trimChars line == text) = false := by
    rw [Bool.and_eq_false_iff, beq_eq_false_iff_ne, ← Bool.not_eq_true]
    exact Decidable.imp_iff_not_or.mp other
  simp only [firstPlace, List.findIdx_cons, passed, cond_false]

/-- A line that warns is the first place of its text. -/
theorem firstPlace_cons_self {line : List Char} {rest : List (List Char)}
    (warns : isWarning line = true) : firstPlace (line :: rest) (Unicode.trimChars line) = 0 := by
  simp [firstPlace, List.findIdx_cons, warns]

/-- The distinct texts of warnings come in the order of the lines that are the first to have them. -/
theorem pairwise_distinct (seen lines : List (List Char)) :
    (distinct seen (warningTexts lines)).Pairwise fun one other =>
      firstPlace lines one < firstPlace lines other := by
  induction lines generalizing seen with
  | nil => exact .nil
  | cons line rest ih =>
    -- A line in front moves all places by one, but for those of its own text.
    have moved (seen : List (List Char)) (others : ∀ text ∈ distinct seen (warningTexts rest),
        isWarning line = true → Unicode.trimChars line ≠ text) :
        (distinct seen (warningTexts rest)).Pairwise fun one other =>
          firstPlace (line :: rest) one < firstPlace (line :: rest) other := by
      refine (ih seen).imp_of_mem fun {one other} first second before => ?_
      rw [firstPlace_cons_of_ne (others one first), firstPlace_cons_of_ne (others other second)]
      exact Nat.succ_lt_succ before
    by_cases warns : isWarning line = true
    · rw [warningTexts, List.filter_cons_of_pos warns, List.map_cons, ← warningTexts, distinct]
      split
      · -- A text that was seen before is not kept, and none of the others is like it.
        rename_i again
        refine moved seen fun text member _ same => (mem_distinct.mp member).2 ?_
        rwa [← same, ← List.contains_iff_mem]
      · -- The text of the line is kept, and seen from there on.
        have others : ∀ text ∈ distinct (seen ++ [Unicode.trimChars line]) (warningTexts rest),
            Unicode.trimChars line ≠ text := by
          rintro text member rfl
          exact (mem_distinct.mp member).2 List.mem_concat_self
        refine List.pairwise_cons.mpr
          ⟨fun text member => ?_, moved _ fun text member _ => others text member⟩
        rw [firstPlace_cons_self warns, firstPlace_cons_of_ne fun _ => others text member]
        exact Nat.succ_pos _
    · rw [warningTexts, List.filter_cons_of_neg warns, ← warningTexts]
      exact moved seen fun _ _ isWarning => absurd isWarning warns

/-- A text that was trimmed stands on a line of its own in any log. -/
theorem dropReturn_trimChars (line : List Char) :
    dropReturn (Unicode.trimChars line) = Unicode.trimChars line := by
  refine dropReturn_eq_self fun ended => ?_
  have solid : Unicode.isWhitespace '\r' = false := Unicode.getLast?_trimChars '\r' ended
  exact absurd solid (by decide)

/-- A line that warns of something is not empty. -/
theorem Warns.ne_nil {line : List Char} (warns : Warns line) : line ≠ [] := by
  rintro rfl
  rcases warns with upper | lower
  · exact absurd (List.infix_nil.mp upper) (by decide)
  · exact absurd (List.infix_nil.mp lower) (by decide)

/-- The lines of a log that is made up of the distinct texts of warnings are these texts, each of
which is a warning again and differs from the others. -/
theorem warningTexts_joinedBy (log : List Char) :
    let texts := distinct [] (warningTexts (logLines log))
    warningTexts (logLines (joinedBy '\n' texts)) = texts := by
  intro texts
  -- Every text is a line of the log without the blanks around it.
  have told : ∀ text ∈ texts, ∃ line ∈ logLines log, Warns line ∧ Unicode.trimChars line = text := by
    intro text member
    obtain ⟨line, inside, same⟩ := List.mem_map.mp (mem_distinct.mp member).1
    obtain ⟨there, warns⟩ := List.mem_filter.mp inside
    exact ⟨line, there, (isWarning_iff line).mp warns, same⟩
  have warns : ∀ text ∈ texts, Warns text := by
    intro text member
    obtain ⟨line, -, warns, rfl⟩ := told text member
    exact (warns_trimChars_iff line).mpr warns
  -- There is nothing in such a text that would make it more or less than one line.
  have lines : logLines (joinedBy '\n' texts) = texts := by
    refine logLines_joinedBy (fun text member => ?_) (fun text member => (warns text member).ne_nil)
      fun text member => ?_
    · obtain ⟨line, there, -, rfl⟩ := told text member
      exact fun found => notMem_of_mem_logLines there ((Unicode.trimChars_infix line).subset found)
    · obtain ⟨line, -, -, rfl⟩ := told text member
      exact dropReturn_trimChars line
  -- Without its blanks a warning is a warning still.
  have all : texts.filter isWarning = texts :=
    List.filter_eq_self.mpr fun text member => (isWarning_iff text).mpr (warns text member)
  -- Nothing is left to be trimmed.
  have trimmed : texts.map Unicode.trimChars = texts := by
    refine (List.map_congr_left fun text member => ?_).trans (List.map_id texts)
    obtain ⟨line, -, -, rfl⟩ := told text member
    exact Unicode.trimChars_trimChars line
  rw [lines, warningTexts, all, trimmed]

/-- Distinct texts differ from each other. -/
theorem nodup_distinct (lines : List (List Char)) :
    (distinct [] (warningTexts lines)).Nodup := by
  refine (pairwise_distinct [] lines).imp fun {one other} before same => ?_
  subst same
  exact Nat.lt_irrefl _ before

/--
The warnings of a log are its lines that warn of something, trimmed. Each text is reported once, in
the order of the lines that are the first to have them; and what is reported, one text on a line,
has the same warnings.
-/
theorem warnings_report (log : List Char) :
    (∀ warning, warning ∈ warnings log ↔
      ∃ line ∈ logLines log, Warns line ∧ warning = String.ofList (Unicode.trimChars line)) ∧
    (warnings log).Nodup ∧
    ((warnings log).Pairwise fun one other =>
      firstPlace (logLines log) one.toList < firstPlace (logLines log) other.toList) ∧
    warnings (joinedBy '\n' ((warnings log).map String.toList)) = warnings log := by
  -- Texts and reported warnings are the same but for how they are stored.
  have reported : warnings log =
      (distinct [] (warningTexts (logLines log))).map String.ofList := rfl
  have texts : (warnings log).map String.toList = distinct [] (warningTexts (logLines log)) := by
    rw [reported, List.map_map]
    exact (List.map_congr_left fun text _ => String.toList_ofList).trans (List.map_id _)
  -- The texts stand in the order in which they come up in the log.
  have order : (warnings log).Pairwise fun one other =>
      firstPlace (logLines log) one.toList < firstPlace (logLines log) other.toList := by
    rw [reported, List.pairwise_map]
    simp only [String.toList_ofList]
    exact pairwise_distinct [] (logLines log)
  -- The order tells one text from another, so no text comes twice.
  refine ⟨fun warning => ?_, ?_, order, ?_⟩
  · rw [reported, List.mem_map]
    simp only [mem_distinct, warningTexts, List.mem_map, List.mem_filter, isWarning_iff]
    constructor
    · rintro ⟨_, ⟨⟨line, ⟨there, warns⟩, rfl⟩, -⟩, rfl⟩
      exact ⟨line, there, warns, rfl⟩
    · rintro ⟨line, there, warns, rfl⟩
      exact ⟨_, ⟨⟨line, ⟨there, warns⟩, rfl⟩, List.not_mem_nil⟩, rfl⟩
  · refine order.imp fun {one other} before same => ?_
    subst same
    exact Nat.lt_irrefl _ before
  · -- Nothing is left out of the texts when they are made distinct again.
    have again := warningTexts_joinedBy log
    dsimp only at again
    have apart : ([] ++ distinct [] (warningTexts (logLines log))).Nodup :=
      nodup_distinct (logLines log)
    have kept := distinct_eq_self apart
    rw [texts, reported]
    change (distinct [] (warningTexts _)).map String.ofList = _
    rw [again, kept]

/-- Lines that differ only in the white space around them are one warning, where the first of them
stands. -/
example : warnings "x warning: a\r\n\tLaTeX Warning: b \n  x warning: a\nUnderfull \\hbox".toList =
    ["x warning: a", "LaTeX Warning: b"] := by decide

end Log

end Manuscript
