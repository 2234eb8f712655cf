import Manuscript.Error
import Manuscript.Json.Reader
import Manuscript.Token.Basic

/-! Reading token trees from JSON. -/

namespace Manuscript

open Json

/-- What was read of a token so far. -/
structure TokenFields where
  /-- The kind. -/
  kind? : Option TokenKind := none
  /-- The literal text, null or not. -/
  raw? : Option (Option String) := none
  /-- The children, null or not. -/
  children? : Option (Option (List Token)) := none
  /-- The attributes. -/
  attrs? : Option Attrs := none

/-- The token of the fields, when it has a kind; fields that were not given are empty. -/
def TokenFields.token? (fields : TokenFields) : Option Token :=
  fields.kind?.map fun kind =>
    { kind
      -- Null counts as a field that was not given.
      raw? := fields.raw?.join
      children? := fields.children?.join
      attrs := fields.attrs?.getD .empty }

/-- Reads a string; anything else is not what was expected. -/
def readText : Reader String :=
  Reader.behindBlanks fun text =>
    match text with
    | [] => .error (.next .eofInValue [])
    | c :: rest =>
      if c = '"' then readString (c :: rest) else .error (mismatch "a string" (c :: rest))

/-- Reads the name of a kind. -/
def readKind : Reader TokenKind := Reader.map TokenKind.ofName readText

/-- Reads null as nothing, and anything else by a reader. -/
def readNullable {α : Type} (reader : Reader α) : Reader (Option α) :=
  Reader.behindBlanks fun text =>
    match text with
    | [] => (Reader.map some reader) []
    | c :: rest =>
      -- Nothing else starts with this letter.
      if c = 'n' then readWordAs "ull" (none : Option α) (c :: rest)
      else (Reader.map some reader) (c :: rest)

/-- Reads attributes, of which the last of one name counts. -/
def readAttrs (depth : Nat) : Reader Attrs :=
  Reader.behindBlanks fun text =>
    match text with
    | [] => .error (.next .eofInValue [])
    | c :: rest =>
      if c = '\x7b' then
        -- Attributes take one level of nesting, as any object does.
        match depth with
        | 0 => .error (.next .tooDeep (c :: rest))
        | depth + 1 =>
          readObject
            (fun (attrs : Attrs) name =>
              .ok (Reader.map (fun value => attrs.insert name value) (readValue depth)))
            Attrs.empty (c :: rest)
      else .error (mismatch "a map" (c :: rest))

/-- Reads a list; anything else is not what was expected. -/
def readListOf {α : Type} (list : Reader (List α)) : Reader (List α) :=
  Reader.behindBlanks fun text =>
    match text with
    | [] => .error (.next .eofInValue [])
    | c :: rest =>
      if c = '[' then list (c :: rest) else .error (mismatch "a sequence" (c :: rest))

/-- The readers of the fields of a token whose parts are read by the given readers. -/
def tokenField (children : Reader (List Token)) (attrs : Reader Attrs) (fields : TokenFields)
    (key : String) : Except Cause (Reader TokenFields) :=
  if key = "type" then
    if fields.kind?.isSome then .error (.duplicateField key)
    else .ok (Reader.map (fun kind => { fields with kind? := some kind }) readKind)
  else if key = "raw" then
    -- Known fields may be given once; null counts as given.
    if fields.raw?.isSome then .error (.duplicateField key)
    else .ok (Reader.map (fun raw => { fields with raw? := some raw }) (readNullable readText))
  else if key = "children" then
    if fields.children?.isSome then .error (.duplicateField key)
    else .ok (Reader.map (fun list => { fields with children? := some list })
      (readNullable children))
  else if key = "attrs" then
    if fields.attrs?.isSome then .error (.duplicateField key)
    else .ok (Reader.map (fun value => { fields with attrs? := some value }) attrs)
  -- Unknown fields may hold anything, to any depth.
  else .ok (Reader.map (fun _ => fields) skip)

/-- Reads a token that is written as an object. -/
def readTokenObject (children : Reader (List Token)) (attrs : Reader Attrs) : Reader Token :=
  fun text =>
    match readObject (tokenField children attrs) {} text with
    | .error fault => .error fault
    | .ok ⟨fields, rest, shorter⟩ =>
      match fields.token? with
      | some token => .ok ⟨token, rest, shorter⟩
      -- That there is no kind shows only when all fields were read.
      | none => .error (.here (.missingField "type") rest)

/-- An item of a list that stands for a record, or nothing at the end of the list. -/
def readSlot {α : Type} (first : Bool) (item : Reader α) : Reader (Option α) := fun text =>
  match nextItem first text with
  | .error fault => .error fault
  | .ok (.close rest shorter) => .ok ⟨none, rest, shorter⟩
  | .ok (.more start bound) =>
    match item start with
    | .error fault => .error fault
    | .ok ⟨value, rest, shorter⟩ => .ok ⟨some value, rest, Nat.lt_of_lt_of_le shorter bound⟩

/-- Reads the end of a list that stands for a record. -/
def readEnd : Reader Unit := fun text =>
  match blanks : skipBlanks text with
  | [] => .error (.next .eofInList [])
  | c :: rest =>
    if c = ']' then .ok ⟨(), rest, skipBlanks_cons_shorter blanks⟩
    else if c = ',' then
      match skipBlanks rest with
      | [] => .error (.next .trailingCharacters [])
      | d :: more =>
        -- Whatever follows the last field is too much.
        if d = ']' then .error (.next .trailingComma (d :: more))
        else .error (.next .trailingCharacters (d :: more))
    else .error (.next .trailingCharacters (c :: rest))

/-- A value that is at hand already, and nothing more to read than what was read before. -/
def finish {α β : Type} (slot : Reader (Option α)) (absent : β) (present : α → Reader β) :
    Reader β := fun text =>
  match slot text with
  | .error fault => .error fault
  | .ok ⟨none, rest, shorter⟩ => .ok ⟨absent, rest, shorter⟩
  | .ok ⟨some value, rest, shorter⟩ =>
    match present value rest with
    | .error fault => .error fault
    | .ok ⟨result, final, last⟩ => .ok ⟨result, final, Nat.lt_trans last shorter⟩

/-- Reads a token that is written as a list: its kind, then its other fields as far as they go. -/
def readTokenItems (children : Reader (List Token)) (attrs : Reader Attrs) : Reader Token :=
  fun text =>
    match readSlot true readKind text with
    | .error fault => .error fault
    | .ok ⟨none, rest, _⟩ => .error (.here (.tooShort 0 "struct Token with 4 elements") rest)
    | .ok ⟨some kind, rest, shorter⟩ =>
      -- Each field that is left out ends the list.
      let bare : Token := { kind }
      let tail : Reader Token :=
        finish (readSlot false (readNullable readText)) bare fun raw? =>
        finish (readSlot false (readNullable children)) { bare with raw? } fun children? =>
        finish (readSlot false attrs) { bare with raw?, children? } fun attrs =>
        Reader.map (fun _ => { bare with raw?, children?, attrs }) readEnd
      match tail rest with
      | .error fault => .error fault
      | .ok ⟨token, final, last⟩ => .ok ⟨token, final, Nat.lt_trans last shorter⟩

/-- A reader of what stands behind an opening bracket. -/
def behindBracket {α : Type} (reader : Reader α) : Reader α
  | [] => .error (.next .eofInValue [])
  | _ :: rest => (reader rest).map Read.behind

/-- Reads a token by its first character; the readers of its two forms are given. -/
def readTokenWith (list : Reader Token) (object : Reader Token) : Reader Token :=
  Reader.behindBlanks fun text =>
    match text with
    | [] => .error (.next .eofInValue [])
    | c :: rest =>
      if c = '[' then list (c :: rest)
      else if c = '\x7b' then object (c :: rest)
      else .error (mismatch "struct Token" (c :: rest))

/-- Reads a list of tokens in which lists and objects are nested no deeper than a bound. -/
def readTokens : Nat → Reader (List Token)
  | 0 => readListOf tooDeep
  -- The list takes one level, and each token in it one more.
  | 1 => readListOf (readList (readTokenWith tooDeep tooDeep))
  | depth + 2 =>
    readListOf <| readList <| readTokenWith
      (behindBracket (readTokenItems (readTokens depth) (readAttrs depth)))
      (readTokenObject (readTokens depth) (readAttrs depth))

/-- How deeply lists and objects may be nested. -/
def nestingLimit : Nat := 127

/-- Reads a whole text; behind what is read only blanks may follow. -/
def readWhole {α : Type} (reader : Reader α) (text : List Char) : Except Fault α :=
  match reader text with
  | .error fault => .error fault
  | .ok ⟨value, rest, _⟩ =>
    match skipBlanks rest with
    | [] => .ok value
    | more => .error (.next .trailingCharacters more)

/-- The tokens of a JSON text. -/
def tokensOfJson (source : String) : Except ConvertError (List Token) :=
  match readWhole (readTokens nestingLimit) source.toList with
  | .ok tokens => .ok tokens
  | .error fault => .error (.tokenize ("invalid token JSON: " ++ fault.message source.toList))

end Manuscript
