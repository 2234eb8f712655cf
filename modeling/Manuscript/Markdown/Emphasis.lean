import Manuscript.Markdown.Syntax
import Manuscript.Unicode.Punctuation
import Manuscript.Unicode.Whitespace

/-! Emphasis: which runs of marks open and close it, and what they make of the text between them. -/

namespace Manuscript.Markdown

/-- A run of equal marks in a text. -/
structure Run where
  /-- The mark. -/
  mark : Char
  /-- How many marks were written. -/
  length : Nat
  /-- It may open emphasis. -/
  opens : Bool
  /-- It may close emphasis. -/
  closes : Bool

/-- A run between two characters; the start and the end of a text count as line ends. -/
def Run.between (before : Char) (mark : Char) (length : Nat) (after : Char) : Run :=
  let hugs (near far : Char) : Bool :=
    !Unicode.isWhitespace near &&
      (!Unicode.isPunctuation near || Unicode.isWhitespace far || Unicode.isPunctuation far)
  let left := hugs after before
  let right := hugs before after
  -- Underscores inside of a word are a part of it.
  if mark = '_' then
    { mark, length
      opens := left && (!right || Unicode.isPunctuation before)
      closes := right && (!left || Unicode.isPunctuation after) }
  else { mark, length, opens := left, closes := right }

/-- A part of a text in which emphasis was not looked for yet. -/
inductive Piece where
  | inline (content : Inline)
  | run (run : Run)

/-- A number of marks as text. -/
def marksText (mark : Char) (count : Nat) : Inline :=
  .text (String.ofList (List.replicate count mark))

/-- A run that opened emphasis. -/
structure Opener where
  /-- The run. -/
  run : Run
  /-- How many of its marks were not used. -/
  left : Nat
  /-- What stands behind it, the last part first. -/
  inside : List Inline

/--
An opener fits a closer of its mark. When one of them may do both, their lengths may add up to a
multiple of three only if each is one.
-/
def Opener.fits (opener : Opener) (closer : Run) : Bool :=
  opener.run.mark = closer.mark &&
    !((closer.opens || opener.run.closes) && (opener.run.length + closer.length) % 3 = 0 &&
      !(opener.run.length % 3 = 0 && closer.length % 3 = 0))

/-- The parts of a text so far. -/
structure EmphasisState where
  /-- The runs that may still be closed, the innermost first. -/
  openers : List Opener := []
  /-- What stands in front of them, the last part first. -/
  before : List Inline := []

namespace EmphasisState

/-- A part added at the end. -/
def add (state : EmphasisState) (content : Inline) : EmphasisState :=
  match state.openers with
  | [] => { state with before := content :: state.before }
  | opener :: outer =>
    { state with openers := { opener with inside := content :: opener.inside } :: outer }

/--
The innermost opener that fits a closer, with everything behind it as its content, and the openers
around it. Openers further inside are only text.
-/
def takeOpener? (closer : Run) : List Opener → Option (Opener × List Opener)
  | [] => none
  | opener :: outer =>
    -- What lies between the two is settled: it goes into the content as text.
    if opener.fits closer then some (opener, outer)
    else
      (takeOpener? closer outer).map fun (found, rest) =>
        let text := marksText opener.run.mark opener.left
        ({ found with inside := opener.inside ++ text :: found.inside }, rest)

/--
Openers of a mark taken for text, the innermost opener first and `behind` what stands behind it: the
content in front of all openers that are left, and those openers.
-/
def settle (mark : Char) : List Inline → List Opener → List Inline × List Opener
  | behind, [] => (behind, [])
  | behind, opener :: outer =>
    if opener.run.mark = mark then
      -- As text, an opener is a part of what stands behind the next one.
      settle mark (behind ++ opener.inside ++ [marksText mark opener.left]) outer
    else
      let (front, kept) := settle mark [] outer
      (front, { opener with inside := behind ++ opener.inside } :: kept)

/-- A closer of a mark found no opener: for underscores, no later one looks in front of it. -/
def hideOpeners (state : EmphasisState) (mark : Char) : EmphasisState :=
  if mark = '_' then
    let (front, kept) := settle mark [] state.openers
    { openers := kept, before := front ++ state.before }
  else state

/-- What is left of a closer that nothing fits any more. -/
def addRest (state : EmphasisState) (run : Run) (left : Nat) : EmphasisState :=
  -- A run may still open emphasis with what it could not close.
  if run.opens then { state with openers := ⟨run, left, []⟩ :: state.openers }
  else state.add (marksText run.mark left)

/-- The marks of a closer used up on openers, two at a time where both have two. -/
def close (run : Run) : Nat → Nat → EmphasisState → EmphasisState
  | 0, _, state => state
  | _, 0, state => state
  | bound + 1, left + 1, state =>
    match takeOpener? run state.openers with
    | none => (state.hideOpeners run.mark).addRest run (left + 1)
    | some (opener, outer) =>
      -- Two marks on both sides make it strong.
      let used := if 2 ≤ left + 1 ∧ 2 ≤ opener.left then 2 else 1
      let content := opener.inside.reverse
      let made := if used = 2 then Inline.strong content else Inline.emphasis content
      -- An opener with marks left may be closed once more, around what was made.
      let next : EmphasisState :=
        if opener.left = used then { state with openers := outer }.add made
        else
          { state with
            openers := { opener with left := opener.left - used, inside := [made] } :: outer }
      close run bound (left + 1 - used) next

/-- A piece added at the end. -/
def addPiece (state : EmphasisState) : Piece → EmphasisState
  | .inline content => state.add content
  | .run run =>
    -- A run that may do both closes first.
    if run.closes then close run run.length run.length state else state.addRest run run.length

/-- Everything in order; runs that were not closed are text. -/
def contents (state : EmphasisState) : List Inline :=
  (state.openers.foldr
    (fun opener before => opener.inside ++ marksText opener.run.mark opener.left :: before)
    state.before).reverse

end EmphasisState

/-- Pieces with the emphasis in them. -/
def resolveEmphasis (pieces : List Piece) : List Inline :=
  (pieces.foldl EmphasisState.addPiece {}).contents

end Manuscript.Markdown
