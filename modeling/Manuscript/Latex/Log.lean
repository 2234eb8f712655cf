import Manuscript.Latex.Engine
import Manuscript.Text.Search
import Manuscript.Text.Utf8

/-! What the log of a LaTeX engine tells. -/

namespace Manuscript.Log

/-- What a log says when another pass is needed. -/
def rerunMarkers : List String :=
  ["Rerun to get cross-references right", "There were undefined references",
   "Label(s) may have changed", "Rerun LaTeX"]

/-- A log asks for another pass. -/
def needsRerun (log : List Char) : Bool :=
  rerunMarkers.any fun marker => occursIn marker.toList log

/-- A log asks for another pass when one of the markers stands somewhere in it. -/
theorem needsRerun_iff {log : List Char} :
    needsRerun log = true ↔ ∃ marker ∈ rerunMarkers, marker.toList <:+: log := by
  simp only [needsRerun, List.any_eq_true, occursIn_iff]

/-- What lines with warnings hold. -/
def warningMarkers : List String := ["Warning:", "warning:"]

/-- A line holds a warning. -/
def isWarning (line : List Char) : Bool :=
  warningMarkers.any fun marker => occursIn marker.toList line

/-- The lines that differ from those before them, in order. -/
def distinct (seen : List (List Char)) : List (List Char) → List (List Char)
  | [] => []
  | line :: rest =>
    -- A line stays where it was first.
    if seen.contains line then distinct seen rest else line :: distinct (seen ++ [line]) rest

/-- The warnings of a log without the white space around them, each of them once. -/
def warnings (log : List Char) : List String :=
  (distinct [] (((logLines log).filter isWarning).map Unicode.trimChars)).map String.ofList

/-- How many lines of a log a summary repeats. -/
def summaryLimit : Nat := 10

/-- A line reports an error. -/
def isError (line : List Char) : Bool := line.head? = some '!'

/-- The lines that report errors, each with the line that follows it. -/
def errorLines : List (List Char) → List (List Char)
  | [] => []
  | line :: rest =>
    -- The line behind an error is repeated with it, and once more if it is an error itself.
    if isError line then line :: (rest.head?.toList ++ errorLines rest) else errorLines rest

/-- What is said of an engine that failed. -/
def failureSummary (engine : LatexEngine) (log : List Char) : String :=
  match (errorLines (logLines log)).take summaryLimit with
  | [] => engine.name ++ " failed without reporting an error"
  | lines => engine.name ++ " failed:\n" ++ String.ofList (joinedBy '\n' lines)

/-- The characters of a log; bytes that are none stand for replacement characters. -/
def charactersOf (content : Bytes) : List Char := (Utf8.decodeLossy content).toList

end Manuscript.Log
