import Manuscript.Config.Reader
import Manuscript.Unicode.Whitespace

/-! Configurations of sections, in which each member is set by a line of its own. -/

namespace Manuscript.Config.Ini

/-- A line end. -/
def isLineEnd (c : Char) : Bool := c = '\n' || c = '\r'

/-- Four hexadecimal digits, or three behind a plus. -/
def unitDigits (text : List Char) : List Char :=
  match text.take 4 with
  | '+' :: digits => digits
  | digits => digits

/-- Reads an escape behind its backslash: a line end behind it stands for nothing. -/
def escape? : Reader (List Char)
  | [] => none
  | 'x' :: rest =>
    if rest.length < 4 then none
    else (namedChar? (unitDigits rest)).map fun c => ([c], rest.drop 4)
  | c :: rest =>
    match c with
    | '0' => some (['\x00'], rest)
    | 'a' => some (['\x07'], rest)
    | 'b' => some (['\x08'], rest)
    | 't' => some (['\t'], rest)
    | 'r' => some (['\r'], rest)
    | 'n' => some (['\n'], rest)
    | '\n' => some ([], rest)
    | _ => some ([c], rest)

/-- Reads up to a character that stops it; the bound limits the length. -/
def upTo (stops : Char → Bool) (mayEnd : Bool) : Nat → Reader (List Char)
  | 0, _ => none
  | _, [] => if mayEnd then some ([], []) else none
  | bound + 1, c :: rest =>
    if stops c then some ([], c :: rest)
    else do
      let (found, behind) ← if c = '\\' then escape? rest else some ([c], rest)
      let (more, final) ← upTo stops mayEnd bound behind
      return (found ++ more, final)

/-- Reads the rest of a line. -/
def restOfLine : Reader (List Char) := fun text => upTo isLineEnd true (text.length + 1) text

/-- Reads a value behind its mark. A value in quotes may span lines. -/
def value? : Reader (List Char) := fun text =>
  let start := text.dropWhile fun c => Unicode.isWhitespace c && !isLineEnd c
  let quoted (quote : Char) (rest : List Char) : Option (List Char × List Char) := do
    let (found, behind) ← upTo (· = quote) false (rest.length + 1) rest
    -- What follows the closing quote on its line belongs to the value.
    let (more, final) ← restOfLine (behind.drop 1)
    return (found ++ more, final)
  match start with
  | '"' :: rest => quoted '"' rest
  | '\'' :: rest => quoted '\'' rest
  | _ => restOfLine start

/-- What is known of a document so far. -/
structure State where
  /-- The members that were set. -/
  members : Members := []
  /-- The section that was opened last. -/
  opened? : Option String := none
  /-- The key that waits for its value. -/
  key : List Char := []

/-- The state with a member set in its section. -/
def State.assign (state : State) (value : List Char) : State :=
  let key := String.ofList state.key
  let written : Value := .text (String.ofList (Unicode.trimChars value))
  let members :=
    match state.opened? with
    | none => state.members.set key written
    | some name =>
      -- The section was opened before, so that its table is there.
      let held := ((state.members.lookup name).getD (.table [])).members
      state.members.set name (.table (held.set key written))
  { state with members, key := [] }

/-- The state with a section opened, which replaces what had its name. -/
def State.enter (state : State) (name : String) : State :=
  { state with members := state.members.set name (.table []), opened? := some name }

/-- Reads to the end; the bound limits the steps. A comment has to start its line. -/
def steps : Nat → Bool → State → List Char → Option Members
  | 0, _, _, _ => none
  | bound + 1, starts, state, text =>
    let space := text.takeWhile Unicode.isWhitespace
    let starts := if space.isEmpty then starts else space.getLast? = some '\n'
    match text.dropWhile Unicode.isWhitespace with
    | [] => some state.members
    | c :: rest =>
      if c = ';' ∨ c = '#' then
        -- Behind other content the mark of a comment is a fault.
        if starts then steps bound true state ((rest.dropWhile (· ≠ '\n')).drop 1) else none
      else if c = '[' then do
        let (name, behind) ← upTo (· = ']') false (rest.length + 1) rest
        let title := String.ofList (Unicode.trimChars name)
        steps bound false (state.enter title) (behind.drop 1)
      else if c = '=' ∨ c = ':' then
        if state.key.isEmpty then none
        else do
          let (value, behind) ← value? rest
          steps bound false (state.assign value) behind
      else do
        let (key, behind) ← upTo (fun d => d = '=' || d = ':') false (rest.length + 2) (c :: rest)
        steps bound false { state with key := Unicode.trimChars key } behind

/-- The members that a document sets. -/
def read? (text : List Char) : Option Members := steps (2 * text.length + 2) true {} text

end Manuscript.Config.Ini
