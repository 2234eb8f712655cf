import Manuscript.Config.Yaml.Cursor

/-! Texts without quotes, which go on over lines that are indented far enough. -/

namespace Manuscript.Config.Yaml

/-- The part of a plain text up to a blank, a line end, or a mark that ends the text. -/
def plainWord (inBraces : Bool) : List Char → List Char
  | [] => []
  | c :: rest =>
    let atColon := c = ':' && (endsWord rest || (inBraces && rest.head?.any isFlowMark))
    if isBlank c || isBreak c || atColon || (inBraces && isFlowMark c) then []
    else c :: plainWord inBraces rest

/--
Skips the blanks and line ends behind a word: the blanks on its line, how many line ends, and the
cursor behind them. A line that a tab indents too little has to be empty.
-/
def skipSpread? (depth : Nat) : Nat → List Char → Nat → Cursor → Option (List Char × Nat × Cursor)
  | 0, blanks, breaks, cursor => some (blanks, breaks, cursor)
  | bound + 1, blanks, breaks, cursor =>
    match cursor.rest with
    | c :: _ =>
      if isBreak c then skipSpread? depth bound [] (breaks + 1) cursor.nextLine
      else if !isBlank c then some (blanks, breaks, cursor)
      else if breaks = 0 then skipSpread? depth bound (blanks ++ [c]) 0 (cursor.skip 1)
      else if c = '\t' ∧ cursor.column < depth then
        cursor.lineEnd?.bind (skipSpread? depth bound blanks breaks)
      else skipSpread? depth bound blanks breaks (cursor.skip 1)
    | [] => some (blanks, breaks, cursor)

/-- The words of a plain text that are left, behind what joins them to those before. -/
def plainTail (inBraces : Bool) (depth : Nat) :
    Nat → List Char → Cursor → Option (List Char × Cursor)
  | 0, _, cursor => some ([], cursor)
  | bound + 1, joint, cursor =>
    let word := plainWord inBraces cursor.rest
    -- A dash in front of a mark is neither an item nor a text.
    let isLoneDash :=
      match cursor.rest with
      | '-' :: rest => inBraces && rest.head?.any isFlowMark
      | _ => false
    -- Comments and the marks of documents are no part of a text.
    if cursor.isMarker ∨ cursor.rest.head? = some '#' then some ([], cursor)
    else if isLoneDash then none
    else if word.isEmpty then some ([], cursor)
    else
      let behind := cursor.pass word.length
      if behind.rest.head?.any fun c => isBlank c || isBreak c then do
        let (blanks, breaks, next) ← skipSpread? depth (behind.left + 1) [] 0 behind
        -- Neither is a line that does not stand far enough inside.
        if !inBraces ∧ next.column < depth then some (joint ++ word, next)
        else
          -- Words on one line keep their blanks, and line ends between words are folded.
          let further := if breaks = 0 then blanks else folded breaks
          let (more, final) ← plainTail inBraces depth bound further next
          return (joint ++ word ++ more, final)
      else some (joint ++ word, behind)

/-- A plain text, the cursor at its first character. -/
def plain? (inBraces : Bool) (depth : Nat) (cursor : Cursor) : Option (List Char × Cursor) :=
  plainTail inBraces depth (cursor.left + 1) [] cursor

end Manuscript.Config.Yaml
