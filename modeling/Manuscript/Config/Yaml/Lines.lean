import Manuscript.Config.Yaml.Cursor

/-! Texts of whole lines, which are kept as they are or folded into one another. -/

namespace Manuscript.Config.Yaml

/-- How the line ends behind a block of lines are kept. -/
inductive Chomping where
  | strip
  | clip
  | keep
  deriving DecidableEq

/-- The chomping that a mark asks for. -/
def Chomping.ofMark? : Char → Option Chomping
  | '-' => some .strip
  | '+' => some .keep
  | _ => none

/-- The indentation that a digit asks for. -/
def indentOfDigit? (c : Char) : Option Nat :=
  if c.isDigit ∧ c ≠ '0' then some (c.toNat - '0'.toNat) else none

/-- The marks behind the one that opens a block: an indentation and a chomping, in either order. -/
def header? (cursor : Cursor) : Option (Option Nat × Chomping × Cursor) :=
  match cursor.rest with
  | [] => some (none, .clip, cursor)
  | c :: rest =>
    match Chomping.ofMark? c, rest.head? with
    | some chomping, some d =>
      -- A zero asks for no indentation that there is.
      if d.isDigit then (indentOfDigit? d).map fun n => (some n, chomping, cursor.pass 2)
      else some (none, chomping, cursor.pass 1)
    | some chomping, none => some (none, chomping, cursor.pass 1)
    | none, next =>
      if c.isDigit then
        (indentOfDigit? c).map fun n =>
          match next.bind Chomping.ofMark? with
          | some chomping => (some n, chomping, cursor.pass 2)
          | none => (some n, .clip, cursor.pass 1)
      else some (none, .clip, cursor)

/-- The blank lines in front of a line of a block, and the cursor behind its indentation. -/
def skipIndent (indent : Nat) : Nat → Nat → Cursor → Nat × Cursor
  | 0, blank, cursor => (blank, cursor)
  | bound + 1, blank, cursor =>
    match cursor.rest with
    | c :: _ =>
      -- Spaces up to the indentation are passed over, and further ones belong to the line.
      if c = ' ' ∧ cursor.column < indent then skipIndent indent bound blank (cursor.skip 1)
      else if isBreak c then skipIndent indent bound (blank + 1) cursor.nextLine
      else (blank, cursor)
    | [] => (blank, cursor)

/--
The blank lines in front of the first line of a block, how far the widest of them and the line
itself are indented, and the cursor behind the indentation.
-/
def detectIndent : Nat → Nat → Nat → Cursor → Nat × Nat × Cursor
  | 0, most, blank, cursor => (most, blank, cursor)
  | bound + 1, most, blank, cursor =>
    let start := cursor.skip (cursor.rest.takeWhile (· = ' ')).length
    let most := max most start.column
    if start.rest.head?.any isBreak then detectIndent bound most (blank + 1) start.nextLine
    else (most, blank, start)

/-- What was read of a block of lines. -/
structure Lines where
  /-- The text. -/
  text : List Char := []
  /-- A line end follows the last line. -/
  ended : Bool := false
  /-- How many blank lines follow it. -/
  blank : Nat := 0
  /-- The last line started with a blank. -/
  ledByBlank : Bool := false

/-- The lines of a block from the one at a cursor on; the bound limits how many there may be. -/
def linesFrom (literal : Bool) (indent : Nat) : Nat → Lines → Cursor → Lines × Cursor
  | 0, lines, cursor => (lines, cursor)
  | bound + 1, lines, cursor =>
    if cursor.column ≠ indent ∨ cursor.rest.isEmpty then (lines, cursor)
    else
      let line := cursor.rest.takeWhile fun c => !isBreak c
      let startsBlank := line.head?.any isBlank
      let joint : List Char :=
        -- Lines are folded into one another unless one of them is indented further.
        if !literal ∧ lines.ended ∧ !lines.ledByBlank ∧ !startsBlank then
          -- A line end alone becomes a space, and one in front of blank lines goes away.
          if lines.blank = 0 then [' '] else []
        else if lines.ended then ['\n'] else []
      let text := lines.text ++ joint ++ List.replicate lines.blank '\n' ++ line
      let behind := cursor.skip line.length
      if behind.rest.isEmpty then (⟨text, false, 0, startsBlank⟩, behind)
      else
        let (blank, next) := skipIndent indent (behind.left + 1) 0 behind.nextLine
        linesFrom literal indent bound ⟨text, true, blank, startsBlank⟩ next

/-- What is kept of a block of lines at whose end a cursor stands. -/
def Lines.chomped (lines : Lines) (chomping : Chomping) (indent : Nat) (final : Cursor) :
    List Char :=
  let ended : List Char := if lines.ended then ['\n'] else []
  -- A last line without a line end is closed, as is one of blanks alone that is indented enough.
  let closed : List Char := if final.rest.isEmpty ∧ max indent 1 ≤ final.column then ['\n'] else []
  match chomping with
  | .strip => lines.text
  | .clip => lines.text ++ ended ++ closed
  | .keep => lines.text ++ ended ++ closed ++ List.replicate lines.blank '\n'

/-- What is kept of a block without any lines at the end of a document. -/
def emptyBlock (chomping : Chomping) (ended : Bool) (blank : Nat) : List Char :=
  match chomping with
  | .strip => []
  | .clip => if ended then ['\n'] else []
  | .keep => if ended then List.replicate (max blank 1) '\n' else []

/-- A block of lines behind the mark that opens it, in a member whose key stands in some column. -/
def block? (literal : Bool) (margin : Option Nat) (cursor : Cursor) :
    Option (List Char × Cursor) := do
  let (given, chomping, marks) ← header? cursor
  let behind ← marks.lineEnd?
  let ended := !behind.rest.isEmpty
  let start := if ended then behind.nextLine else behind
  let least := margin.elim 0 (· + 1)
  -- No tab leads the lines.
  if start.rest.head? = some '\t' then none
  else
    let (indent, blank, first) :=
      match given with
      -- A given indentation counts from the one around the block.
      | some n =>
        let indent := margin.elim n (· + n)
        (indent, skipIndent indent (start.left + 1) 0 start)
      | none =>
        let (most, blank, first) := detectIndent (start.left + 1) 0 0 start
        (max most least, blank, first)
    if first.rest.isEmpty then return (emptyBlock chomping ended blank, first)
    -- A first line further inside than the key, but not as far as the block, is refused.
    else if first.column < indent ∧ least ≤ first.column then none
    else
      let (lines, final) := linesFrom literal indent (first.left + 1) { blank } first
      return (lines.chomped chomping indent final, final)

end Manuscript.Config.Yaml
