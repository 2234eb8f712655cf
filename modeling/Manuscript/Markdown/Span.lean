import Manuscript.Markdown.Syntax
import Manuscript.Markdown.Text

/-! Spans of a text that are kept as they are: code between backticks, and math between dollars. -/

namespace Manuscript.Markdown

/-- How many marks are at the front of a text. -/
def runLength (mark : Char) (text : List Char) : Nat := (text.takeWhile (· = mark)).length

/-- A text in which line ends are spaces. -/
def lineEndsAsSpaces : List Char → List Char
  | [] => []
  | '\r' :: '\n' :: rest => ' ' :: lineEndsAsSpaces rest
  | c :: rest => (if c = '\r' ∨ c = '\n' then ' ' else c) :: lineEndsAsSpaces rest

/--
What a span of code holds: line ends are spaces, and one space at both ends is dropped unless the
span is all spaces.
-/
def spanText (text : List Char) : String :=
  let spaced := lineEndsAsSpaces text
  let stripped :=
    -- A span of spaces alone keeps all of them.
    if spaced.any (· ≠ ' ') ∧ spaced.head? = some ' ' ∧ spaced.getLast? = some ' ' then
      spaced.tail.dropLast
    else spaced
  String.ofList stripped

/-- How long the run of backticks around code may be. -/
def codeMarkLimit : Nat := 80

/-- Runs of backticks that were passed while the ends of code were looked for. -/
structure TickRuns where
  /-- For each length the run that was seen last, by how many characters there are from it on. -/
  last : List (Nat × Nat) := []
  /-- The end of the text was reached once. -/
  complete : Bool := false

namespace TickRuns

/-- A run that was seen, in place of the one of its length that was seen before. -/
def see (runs : TickRuns) (length left : Nat) : TickRuns :=
  { runs with last := (length, left) :: runs.last.filter (·.1 ≠ length) }

/-- A run of a length may follow a place from which a number of characters are left. -/
def mayFollow (runs : TickRuns) (length left : Nat) : Bool :=
  -- Once the end was reached, the runs that were seen are taken for all there are.
  !runs.complete || (runs.last.lookup length).any (· < left)

/--
What follows the first run of a number of backticks, and the runs that are known then. `left` counts
the characters of the text, and the first `inRun` of them belong to a run that was looked at.
-/
def search (count : Nat) : Nat → Nat → TickRuns → List Char → Option (List Char) × TickRuns
  | _, _, runs, [] => (none, { runs with complete := true })
  | 0, left, runs, c :: rest =>
    if c = '\x60' then
      let length := runLength c (c :: rest)
      let runs := if length ≤ codeMarkLimit then runs.see length left else runs
      -- A longer or a shorter run is a part of the code, as a whole.
      if length = count then (some (rest.drop (length - 1)), runs)
      else search count (length - 1) (left - 1) runs rest
    else search count 0 (left - 1) runs rest
  | inRun + 1, left, runs, _ :: rest => search count inRun (left - 1) runs rest

end TickRuns

/-- The code behind a run of a number of backticks, what follows it, and the runs known then. -/
def codeSpan? (runs : TickRuns) (count : Nat) (text : List Char) :
    Option (String × List Char) × TickRuns :=
  let left := text.length
  -- A run that is too long, or that no run of its length follows, is text.
  if codeMarkLimit < count ∨ !runs.mayFollow count left then (none, runs)
  else
    let (found, runs) := TickRuns.search count 0 left runs text
    (found.map fun after => (spanText (text.take (left - after.length - count)), after), runs)

/--
The text up to the dollar that ends inline math, and what follows that. A dollar behind a backslash
is a part of the math, and so is a run of several. A run with a space in front of it or a digit
behind it means that there is no math. `inRun` marks of the present run are left to be passed over.
-/
def untilDollar? (previous : Char) : Nat → List Char → Option (List Char × List Char)
  | _, [] => none
  | 0, c :: rest =>
    let more (inRun : Nat) : Option (List Char × List Char) :=
      (untilDollar? c inRun rest).map fun (math, after) => (c :: math, after)
    if c ≠ '$' then more 0
    else if isSpace previous then none
    else if previous = '\\' then more 0
    else
      let others := runLength '$' rest
      if (rest.drop others).head?.any Char.isDigit then none
      else if others = 0 then some ([], rest)
      else more others
  | inRun + 1, c :: rest =>
    (untilDollar? c inRun rest).map fun (math, after) => (c :: math, after)

/-- The text up to a run of two dollars, and what follows them. Other runs are passed over. -/
def untilDollars? : Nat → List Char → Option (List Char × List Char)
  | _, [] => none
  | 0, c :: rest =>
    let more (inRun : Nat) : Option (List Char × List Char) :=
      (untilDollars? inRun rest).map fun (math, after) => (c :: math, after)
    if c ≠ '$' then more 0
    else
      let others := runLength '$' rest
      if others = 1 then some ([], rest.drop 1) else more others
  | inRun + 1, c :: rest =>
    (untilDollars? inRun rest).map fun (math, after) => (c :: math, after)

/-- The math behind a number of dollars, whether it is displayed, and what follows it. -/
def mathSpan? (count : Nat) (text : List Char) : Option (Inline × List Char) :=
  match count with
  | 1 =>
    if text.head?.any isSpace then none
    else (untilDollar? '$' 0 text).map fun (math, after) => (.math false (spanText math), after)
  | 2 => (untilDollars? 0 text).map fun (math, after) => (.math true (String.ofList math), after)
  | _ => none

end Manuscript.Markdown
