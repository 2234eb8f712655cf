import Manuscript.Config.Yaml.Cursor

/-! Texts in quotes, which may span lines. -/

namespace Manuscript.Config.Yaml

/-- The character that a letter behind a backslash stands for. -/
def letterEscape? : Char → Option Char
  | '0' => some '\x00'
  | 'a' => some '\x07'
  | 'b' => some '\x08'
  | 't' | '\t' => some '\t'
  | 'n' => some '\n'
  | 'v' => some '\x0b'
  | 'f' => some '\x0c'
  | 'r' => some '\r'
  | 'e' => some '\x1b'
  | ' ' => some ' '
  | '"' => some '"'
  | '/' => some '/'
  | '\\' => some '\\'
  | 'N' => some '\u0085'
  | '_' => some '\u00a0'
  | 'L' => some '\u2028'
  | 'P' => some '\u2029'
  | _ => none

/-- An escape behind its backslash: what it stands for, and how long it is. -/
def escape? (text : List Char) : Option (Char × Nat) :=
  match text with
  | [] => none
  | c :: rest =>
    let named (count : Nat) : Option (Char × Nat) :=
      if (rest.take count).length < count then none
      else (namedChar? (rest.take count)).map fun found => (found, count + 1)
    if c = 'x' then named 2
    else if c = 'u' then named 4
    else if c = 'U' then named 8
    else (letterEscape? c).map fun found => (found, 1)

/--
Skips blanks and line ends: how many line ends, and the cursor behind them. Behind a line end no tab
stands in front of the columns of what is open.
-/
def skipBreaks? (depth : Nat) : Nat → Nat → Cursor → Option (Nat × Cursor)
  | 0, breaks, cursor => some (breaks, cursor)
  | bound + 1, breaks, cursor =>
    match cursor.rest with
    | c :: _ =>
      if isBlank c then
        if c = '\t' ∧ 0 < breaks ∧ cursor.column + 1 < depth then none
        else skipBreaks? depth bound breaks (cursor.skip 1)
      else if isBreak c then skipBreaks? depth bound (breaks + 1) cursor.nextLine
      else some (breaks, cursor)
    | [] => some (breaks, cursor)

/--
The rest of a quoted text, up to its quote. Escapes count in it when the quote is a double one, and
its lines are indented as what is open is.
-/
def quotedTail (quote : Char) (depth : Nat) : Nat → Cursor → Option (List Char × Cursor)
  | 0, _ => none
  | bound + 1, cursor =>
    let further (found : List Char) (next : Cursor) : Option (List Char × Cursor) :=
      (quotedTail quote depth bound next).map fun (more, final) => (found ++ more, final)
    match cursor.rest with
    | [] => none
    | c :: rest =>
      -- No document starts or ends in quotes, and their lines stand inside of what is open.
      if cursor.isMarker ∨ cursor.column + 1 < depth then none
      -- A single quote is written twice in single quotes.
      else if c = '\'' ∧ quote = '\'' ∧ rest.head? = some '\'' then further ['\''] (cursor.pass 2)
      else if c = quote then some ([], cursor.pass 1)
      else if c = '\\' ∧ quote = '"' then
        -- An escaped line end drops itself, and keeps the blank lines behind it.
        if rest.head?.any isBreak then do
          let (breaks, next) ← skipBreaks? depth cursor.left 0 (cursor.pass 1)
          further (List.replicate (breaks - 1) '\n') next
        else (escape? rest).bind fun (found, length) => further [found] (cursor.pass (length + 1))
      else if isBlank c ∨ isBreak c then do
        let (breaks, next) ← skipBreaks? depth cursor.left 0 cursor
        -- Blanks on a line are kept, and those around a line end are not.
        if breaks = 0 then further (cursor.rest.take (cursor.left - next.left)) next
        else further (folded breaks) next
      else further [c] (cursor.pass 1)

/--
A quoted text, the cursor at its quote, and the cursor behind the blanks that follow it. Only the
end of the line, a mark of the collection around the text, or the colon of a key may come next.
-/
def quoted? (inBraces : Bool) (depth : Nat) (cursor : Cursor) : Option (List Char × Cursor) := do
  let quote ← cursor.rest.head?
  let (text, behind) ← quotedTail quote depth (cursor.left + 1) (cursor.pass 1)
  let (_, next) ← behind.gap?
  let allowed :=
    match next.rest with
    | [] => true
    | c :: _ =>
      -- Outside of braces a colon makes a key of a text that started on its line.
      isBreak c || (inBraces && (c = ',' || c = '\x7d' || c = ']' || c = ':')) ||
        (c = ':' && next.line = cursor.line)
  if allowed then some (text, next) else none

end Manuscript.Config.Yaml
