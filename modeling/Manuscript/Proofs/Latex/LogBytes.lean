import Manuscript.Latex.Compiler
import Manuscript.Proofs.Path.Steps
import Manuscript.Proofs.Text.Utf8
import Mathlib.Data.List.Forall2
import Mathlib.Data.List.Infix

/-!
The text of a log against its bytes, which need not be UTF-8. What a log is searched for are marks
whose characters take a single byte each: they are in the text where they are in the bytes, and the
lines of the text that report errors are those of the bytes.
-/

namespace Manuscript.Log

open Manuscript.Utf8

/-- The lines of a log in bytes: what stands between its line feeds. -/
def byteLines (content : Bytes) : List Bytes := content.splitOn '\n'.toUInt8

/-- A line of bytes reports an error. -/
def isErrorBytes (line : Bytes) : Bool := line.head? = some '!'.toUInt8

/-- A line is the text of a line of bytes, but for a carriage return at the end of that. -/
def IsTextOf (line : List Char) (bytes : Bytes) : Prop :=
  charactersOf bytes = line ∨ charactersOf bytes = line ++ ['\r']

/-- A character that takes a single byte is not in a text without its byte. -/
theorem notMem_charactersOf {c : Char} (small : c.toNat < 0x80) {content : Bytes}
    (none : c.toUInt8 ∉ content) : c ∉ charactersOf content := by
  intro member
  -- As a piece of the text the character has its byte as a piece of the content.
  have occurs : [c] <:+: charactersOf content := (List.singleton_infix_iff _ _).mpr member
  have plain : ∀ other ∈ [c], other.toNat < 0x80 := List.forall_mem_singleton.mpr small
  exact none ((List.singleton_infix_iff _ _).mp ((infix_decodeLossy_iff plain).mp occurs))

/-- A text has the lines of its bytes, each decoded by itself. -/
theorem piecesAt_charactersOf (content : Bytes) :
    piecesAt '\n' (charactersOf content) = (byteLines content).map charactersOf := by
  have small : '\n'.toNat < 0x80 := by decide
  -- The first line feed cuts off a line, and the induction goes on behind it.
  induction size : content.length using Nat.strong_induction_on generalizing content with
  | _ n ih =>
    by_cases cut : '\n'.toUInt8 ∈ content
    · obtain ⟨line, behind, rfl, whole⟩ := List.eq_append_cons_of_mem cut
      -- A line feed is a single byte, at which the decoder starts anew.
      have text : charactersOf (line ++ '\n'.toUInt8 :: behind) =
          charactersOf line ++ '\n' :: charactersOf behind :=
        toList_decodeLossy_append (isAscii_toUInt8 small) line behind
      have shorter : behind.length < n := by
        rw [← size, List.length_append, List.length_cons]
        omega
      rw [text, piecesAt_append, byteLines, List.splitOn_append_cons_self_of_not_mem whole,
        ih behind.length shorter behind rfl, piecesAt_of_notMem (notMem_charactersOf small whole)]
      rfl
    · rw [piecesAt_of_notMem (notMem_charactersOf small cut), byteLines,
        List.splitOn_eq_singleton cut]
      rfl

/-- A line is what is left without its carriage return, and that if there was one. -/
theorem dropReturn_cases (line : List Char) :
    line = dropReturn line ∨ line = dropReturn line ++ ['\r'] := by
  -- The carriage return is taken off where it is the last character only.
  fun_induction dropReturn line with
  | case1 => exact .inl rfl
  | case2 => exact .inr rfl
  | case3 c rest other ih =>
    rcases ih with same | ended
    · exact .inl (congrArg (c :: ·) same)
    · exact .inr (congrArg (c :: ·) ended)

/-- A line reports an error with its carriage return or without it. -/
theorem isError_dropReturn (line : List Char) : isError (dropReturn line) = isError line := by
  fun_cases dropReturn line <;> rfl

/-- The lines of a text that report errors are its pieces that do. -/
theorem forall₂_filter_logLines (text : List Char) :
    List.Forall₂ (fun line piece => piece = line ∨ piece = line ++ ['\r'])
      ((logLines text).filter isError) ((piecesAt '\n' text).filter isError) := by
  have ended : ∀ pieces : List (List Char),
      List.Forall₂ (fun line piece => piece = line ∨ piece = line ++ ['\r'])
        ((pieces.map dropReturn).filter isError) (pieces.filter isError) := by
    intro pieces
    rw [List.filter_map, List.forall₂_map_left_iff]
    -- A carriage return more or less does not change what a line starts with.
    have same : isError ∘ dropReturn = isError := funext isError_dropReturn
    rw [same, List.forall₂_same]
    exact fun line _ => dropReturn_cases line
  have some := piecesAt_ne_nil '\n' text
  unfold logLines
  dsimp only
  rcases List.eq_nil_or_concat (piecesAt '\n' text) with none | ⟨front, last, pieces⟩
  · exact absurd none some
  rw [List.concat_eq_append] at pieces
  rw [pieces, List.dropLast_concat, List.getLast?_concat, List.filter_append]
  cases last with
  | nil =>
    -- What stands behind the last line feed is no line when there is nothing.
    simpa [isError] using ended front
  | cons c rest =>
    dsimp only
    rw [List.filter_append]
    exact List.rel_append (ended front) (List.forall₂_same.mpr fun line _ => .inl rfl)

/-- The text of bytes reports an error when they do. -/
theorem isError_charactersOf (line : Bytes) :
    isError (charactersOf line) = isErrorBytes line := by
  have small : '!'.toNat < 0x80 := by decide
  -- Only the first byte decides, and an exclamation mark takes a single one.
  cases line with
  | nil => simp [isError, isErrorBytes, charactersOf, decodeLossy, characters]
  | cons byte rest =>
    simp only [isError, isErrorBytes, charactersOf, toList_decodeLossy_cons, List.head?_cons,
      Option.some.injEq, first_eq_iff small]

/-- The markers that ask for another pass take a single byte for each character. -/
theorem rerunMarkers_plain : ∀ marker ∈ rerunMarkers, ∀ c ∈ marker.toList, c.toNat < 0x80 := by
  have each : rerunMarkers.all fun marker => marker.toList.all fun c => c.toNat < 0x80 := by decide
  simpa only [List.all_eq_true, decide_eq_true_eq] using each

/-- A log asks for another pass when its bytes do. -/
theorem needsRerun_charactersOf (content : Bytes) :
    needsRerun (charactersOf content) = true ↔
      ∃ marker ∈ rerunMarkers, encode marker <:+: content := by
  rw [needsRerun_iff]
  refine exists_congr fun marker => and_congr_right fun member => ?_
  -- The markers are plain, so each stands in the text where its bytes stand in the content.
  have plain := rerunMarkers_plain marker member
  rw [charactersOf, infix_decodeLossy_iff plain, encode, flatMap_utf8EncodeChar plain]

variable {σ : Type}

/--
Of a log in whatever bytes, what is read asks for another pass exactly when a marker stands in the
bytes, and the lines that report errors are those that begin with an exclamation mark in the bytes,
one for each and in their order.
-/
theorem readLog_keeps_marks (programs : Programs σ) (world : World σ) (folder : Path)
    (content : Bytes)
    (there : world.files.read (Compiler.jobFile folder "log") = .ok content) :
    let log := ((Compiler.readLog folder).run programs world).1
    (needsRerun log = true ↔ ∃ marker ∈ rerunMarkers, encode marker <:+: content) ∧
      List.Forall₂ IsTextOf ((logLines log).filter isError)
        ((byteLines content).filter isErrorBytes) := by
  -- The characters that are read are those of the bytes, marks for broken ones among them.
  have read : ((Compiler.readLog folder).run programs world).1 = charactersOf content := by
    rw [Compiler.readLog, Task.run, there]
    rfl
  intro log
  have text : log = charactersOf content := read
  rw [text]
  refine ⟨needsRerun_charactersOf content, ?_⟩
  -- Lines of characters go with lines of bytes, and the same ones begin with the mark of an error.
  have lines := forall₂_filter_logLines (charactersOf content)
  have same : isError ∘ charactersOf = isErrorBytes := funext isError_charactersOf
  rw [piecesAt_charactersOf, List.filter_map, same, List.forall₂_map_right_iff] at lines
  exact lines

/-- A log with a character cut short before a line feed and another one before a marker. -/
def brokenLog : Bytes :=
  [0xe4, 0xb8] ++ encode "\n!" ++ [0xf0, 0x9f] ++ encode "Rerun LaTeX\r\n"

/-- The folder of an engine that left this log. -/
def brokenRun : World Unit where
  files.entries :=
    [(["out".toList], .folder), (["out".toList, "document.log".toList], .file brokenLog)]
  memory := ()

/-- Characters that are cut short hide neither the marker nor the line that reports an error. -/
theorem readLog_keeps_marks_brokenLog :
    let folder := Path.ofString "out"
    let programs : Programs Unit := fun _ files memory => (.ended 0, files, memory)
    let log := ((Compiler.readLog folder).run programs brokenRun).1
    brokenRun.files.read (Compiler.jobFile folder "log") = .ok brokenLog ∧
      needsRerun log = true ∧
      List.Forall₂ IsTextOf ((logLines log).filter isError)
        [[0x21, 0xf0, 0x9f] ++ encode "Rerun LaTeX\r"] := by
  intro folder programs log
  -- The log is there, as the engine has left it.
  have there : brokenRun.files.read (Compiler.jobFile folder "log") = .ok brokenLog := by
    decide +kernel
  -- The broken bytes end neither the marker nor the line.
  have lines : (byteLines brokenLog).filter isErrorBytes =
      [[0x21, 0xf0, 0x9f] ++ encode "Rerun LaTeX\r"] := by decide
  obtain ⟨asks, errors⟩ := readLog_keeps_marks programs brokenRun folder brokenLog there
  refine ⟨there, asks.mpr ⟨"Rerun LaTeX", by decide, ?_⟩, lines ▸ errors⟩
  exact ⟨[0xe4, 0xb8] ++ encode "\n!" ++ [0xf0, 0x9f], encode "\r\n", by decide⟩

end Manuscript.Log
