import Manuscript.Config.Yaml.Scalar
import Manuscript.Config.Yaml.Token

/-!
Documents in YAML that set members to scalars, one below another or between braces. A document in
which a member holds a collection is not read.
-/

namespace Manuscript.Config.Yaml

/--
What stands for a key or a value; nothing when a tag does not fit, or an anchor is not closed.
-/
abbrev Part := Option Scalar

/-- What was named in a document so far. -/
structure Names where
  /-- What the handle of the last directive stands for. -/
  handle : Option (List Char × List Char) := none
  /-- The anchors with their values, the last one first. -/
  anchors : List (List Char × Part) := []

namespace Names

/-- What a handle stands for. -/
def meaning? (names : Names) (handle : List Char) : Option (List Char) :=
  names.handle.bind fun known => if known.1 = handle then some known.2 else none

/-- A tag with its handle replaced by what it stands for; a handle between marks needs a meaning. -/
def resolve? (names : Names) (tag : Tag) : Option Tag :=
  -- Directives come first, as they may give two marks another meaning.
  match names.meaning? tag.handle with
  | some start => some ⟨start, tag.suffix⟩
  | none =>
    if tag.handle = ['!', '!'] then some ⟨"tag:yaml.org,2002:".toList, tag.suffix⟩
    else if isFullHandle tag.handle then none
    else some tag

/-- The names with one more anchor, if there is one. -/
def withAnchor (names : Names) (anchor : Option (List Char)) (part : Part) : Names :=
  match anchor with
  | some name => { names with anchors := (name, part) :: names.anchors }
  | none => names

end Names

/-- The anchor and the tag in front of a value, in either order, and the tokens behind them. -/
def properties? (names : Names) (tokens : List Token) :
    Option (Option (List Char) × Option Tag × List Token) :=
  match tokens with
  | .anchor name :: .tag tag :: rest =>
    (names.resolve? tag).map fun found => (some name, some found, rest)
  | .tag tag :: .anchor name :: rest =>
    (names.resolve? tag).map fun found => (some name, some found, rest)
  | .anchor name :: rest => some (some name, none, rest)
  | .tag tag :: rest => (names.resolve? tag).map fun found => (none, some found, rest)
  | _ => some (none, none, tokens)

/-- A key or a value, the names behind it, and the tokens that follow it. -/
def part? (names : Names) (tokens : List Token) : Option (Part × Names × List Token) :=
  match tokens with
  | .alias name :: rest => do
    -- Of anchors with one name the last one counts.
    let found ← names.anchors.find? (·.1 = name)
    return (found.2, names, rest)
  | _ => do
    let (anchor, tag, rest) ← properties? names tokens
    let ofPlain (text : List Char) : Part :=
      match tag with
      | some tag => Scalar.ofTagged? tag text
      | none => some (.ofPlain text)
    match rest with
    | .scalar isPlain text :: more =>
      -- What stands in quotes is a text, whatever its tag says.
      let part : Part := if isPlain then ofPlain text else some (.text text)
      return (part, names.withAnchor anchor part, more)
    -- Neither keys nor values are collections.
    | .mappingStart :: _ | .braceOpen :: _ => none
    | _ =>
      -- An anchor or a tag that stands alone belongs to an empty text.
      if anchor.isNone && tag.isNone then none
      else
        let part := ofPlain []
        return (part, names.withAnchor anchor part, rest)

/-- A key or a value that is missing when one of some tokens comes next. -/
def optionalPart? (isMissing : Token → Bool) (names : Names) (tokens : List Token) :
    Option (Part × Names × List Token) :=
  if tokens.head?.any isMissing then some (some .null, names, tokens) else part? names tokens

/-- A token that follows a key or a value below one another. -/
def Token.endsBlockPart : Token → Bool
  | .key | .value | .mappingEnd => true
  | _ => false

/-- A token that follows a value between braces. -/
def Token.endsBracePart : Token → Bool
  | .comma | .braceClose => true
  | _ => false

/-- A token that follows a key between braces. -/
def Token.endsBraceKey (token : Token) : Bool := token matches .value || token.endsBracePart

/-- The keys and values of members below one another, up to the end of the mapping. -/
def blockParts? : Nat → Names → List Token → Option (List (Part × Part) × List Token)
  | 0, _, _ => none
  | bound + 1, names, tokens => do
    let (key, names, behind) ←
      match tokens with
      | .key :: rest => optionalPart? Token.endsBlockPart names rest
      -- A value without a key belongs to null.
      | .value :: _ => some (some .null, names, tokens)
      | _ => if tokens.head? matches some .mappingEnd then some (none, names, tokens) else none
    match tokens with
    | .mappingEnd :: rest => return ([], rest)
    | _ =>
      let (value, names, final) ←
        match behind with
        | .value :: rest => optionalPart? Token.endsBlockPart names rest
        -- A key without a value is given null.
        | _ => some (some .null, names, behind)
      let (more, rest) ← blockParts? bound names final
      return ((key, value) :: more, rest)

/-- The keys and values of members with commas between them, up to the brace. -/
def braceParts? : Nat → Names → List Token → Option (List (Part × Part) × List Token)
  | 0, _, _ => none
  | bound + 1, names, tokens =>
    match tokens with
    | .braceClose :: rest => some ([], rest)
    | _ => do
      let (key, names, behind) ←
        match tokens with
        | .key :: rest => optionalPart? Token.endsBraceKey names rest
        | .value :: _ => some (some .null, names, tokens)
        | _ => part? names tokens
      let isMarked :=
        match tokens with
        | .key :: _ | .value :: _ => true
        | _ => false
      let (value, names, final) ←
        match behind with
        -- What was no key has no value.
        | .value :: rest =>
          if isMarked then optionalPart? Token.endsBracePart names rest
          else some (some .null, names, behind)
        | _ => some (some .null, names, behind)
      match final with
      | .braceClose :: rest => return ([(key, value)], rest)
      | .comma :: rest =>
        let (more, rest) ← braceParts? bound names rest
        return ((key, value) :: more, rest)
      | _ => none

/--
Keys with their values, from keys and values one after another. What stands for no key is passed
over, so that what follows it is taken for the key.
-/
def pairs : List Part → List (Scalar × Part)
  | some key :: value :: rest => (key, value) :: pairs rest
  | none :: rest => pairs rest
  | _ => []

/-- The pairs without those that a later pair with their key replaces. -/
def lastPairs (pairs : List (Scalar × Part)) : List (Scalar × Part) :=
  pairs.foldl (fun kept pair => kept.filter (·.1 ≠ pair.1) ++ [pair]) []

/-- The member that a pair sets. -/
def member? (pair : Scalar × Part) : Option (String × Value) := do
  let key ← pair.1.keyText?
  match pair.2 with
  | some scalar => return (key, ← scalar.value?)
  -- What stands for no value sets null.
  | none => return (key, .null)

/-- The members that keys and values set, one after another. -/
def membersOf? (parts : List (Part × Part)) : Option Members := do
  -- Keys and values stand in one row, in which what is no key moves the others on.
  let members ← (lastPairs (pairs (parts.flatMap fun part => [part.1, part.2]))).mapM member?
  return members.foldl (fun acc member => acc.set member.1 member.2) []

/-- The members of the mapping that a document is, and the tokens behind it. -/
def content? (names : Names) (tokens : List Token) : Option (Members × List Token) := do
  let (anchor, _, start) ← properties? names tokens
  -- An anchor of the whole document has no value inside of it.
  let names := names.withAnchor anchor none
  let (parts, rest) ←
    match start with
    | .mappingStart :: rest => blockParts? (rest.length + 1) names rest
    | .braceOpen :: rest => braceParts? (rest.length + 1) names rest
    | _ => none
  return (← membersOf? parts, rest)

/-- The names that the directives in front of a document give, and the tokens behind them. -/
def directives? (hasVersion : Bool) (names : Names) :
    List Token → Option (Names × List Token)
  | .directive .version :: rest =>
    if hasVersion then none else directives? true { names with handle := none } rest
  | .directive (.handle handle start) :: rest =>
    directives? hasVersion { names with handle := some (handle, start) } rest
  | tokens => some (names, tokens)

/-- Tokens without marks of the end of a document at their front. -/
def skipEnds : List Token → List Token
  | .documentEnd :: rest => skipEnds rest
  | tokens => tokens

/-- The members that the tokens of a text set; a text without a document sets none. -/
def membersOfTokens? (tokens : List Token) : Option Members := do
  match skipEnds tokens with
  | [] => return []
  | start =>
    let (names, behind) ← directives? false {} start
    let content ←
      match start, behind with
      | .directive _ :: _, .documentStart :: rest => some rest
      -- Behind directives the start of a document has to be marked.
      | .directive _ :: _, _ => none
      | .documentStart :: rest, _ => some rest
      | _, _ => some start
    let (members, rest) ← content? names content
    -- Nothing follows but marks of the end.
    if (skipEnds rest).isEmpty then return members else none

/-- The members that a document sets; it ends at a character of code point zero. -/
def read? (text : List Char) : Option Members :=
  (tokensOf? (text.takeWhile (· ≠ '\x00'))).bind membersOfTokens?

end Manuscript.Config.Yaml
