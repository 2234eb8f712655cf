import Manuscript.Config.Toml.Scalar

/-!
Documents in TOML. Lines name tables and set members of them; what was named how is remembered, as
no table may be opened twice.
-/

namespace Manuscript.Config.Toml

/-- How a table came about. -/
inductive Origin where
  /-- A line opened it. -/
  | opened
  /-- A table inside of it was opened. -/
  | implied
  /-- A member was set through it. -/
  | dotted
  deriving DecidableEq

/-- What a key stands for so far. -/
inductive Node where
  | value (value : Value)
  | table (origin : Origin) (members : List (String × Node))
  /-- The tables of a list, the last one first. -/
  | tables (items : List (List (String × Node)))

/-- Keys with what they stand for. -/
abbrev Nodes := List (String × Node)

mutual

/-- The value of a node. -/
def Node.toValue : Node → Value
  | .value value => value
  | .table _ members => .table (membersOf members)
  | .tables items => .list (listOf items).reverse

/-- The members of nodes. -/
def membersOf : List (String × Node) → List (String × Value)
  | [] => []
  | (key, node) :: rest => (key, node.toValue) :: membersOf rest

/-- The values of tables. -/
def listOf : List (List (String × Node)) → List Value
  | [] => []
  | members :: rest => .table (membersOf members) :: listOf rest

end

/-- The nodes with one set, in the place of one that has its key. -/
def put (nodes : Nodes) (key : String) (node : Node) : Nodes :=
  if nodes.any (·.1 = key) then nodes.map fun held => if held.1 = key then (key, node) else held
  else nodes ++ [(key, node)]

/--
Changes the table that keys lead to. Tables on the way that are missing are made; those that a line
opened are closed to dotted keys.
-/
def within (dotted : Bool) (change : Origin → Nodes → Option Nodes) :
    List String → Origin → Nodes → Option Nodes
  | [], origin, nodes => change origin nodes
  | key :: rest, _, nodes =>
    match nodes.lookup key with
    | none =>
      -- How a table came about decides what may be added to it later.
      let origin : Origin := if dotted then .dotted else .implied
      (within dotted change rest origin []).map fun inner => put nodes key (.table origin inner)
    | some (.table origin inner) =>
      -- Dotted keys do not reach into a table that has a header of its own.
      if dotted ∧ origin = .opened then none
      else
        (within dotted change rest origin inner).map fun inner =>
          put nodes key (.table origin inner)
    -- Keys lead on into the newest table of a list.
    | some (.tables (last :: before)) =>
      (within dotted change rest .opened last).map fun inner =>
        put nodes key (.tables (inner :: before))
    -- A value has no members to go to.
    | some _ => none

/-- Sets a member that a path of keys leads to, through tables that only such paths made. -/
def assign (path : List String) (value : Value) (nodes : Nodes) : Option Nodes :=
  match path.getLast? with
  | none => none
  | some key =>
    within true (fun origin inner =>
      -- A path ends in a table of its own kind, or has no table to go through.
      if path.length ≠ 1 ∧ origin ≠ .dotted then none
      -- No key is set twice.
      else if (inner.lookup key).isSome then none
      else some (put inner key (.value value)))
      path.dropLast .opened nodes

/-- Opens the table that a path of keys leads to. -/
def openTable (path : List String) (nodes : Nodes) : Option Nodes :=
  match path.getLast? with
  | none => none
  | some key =>
    within false (fun _ inner =>
      match inner.lookup key with
      | none => some (put inner key (.table .opened []))
      -- A table that was only passed through may be opened once.
      | some (.table .implied members) =>
        some (put inner key (.table .opened members))
      | some _ => none)
      path.dropLast .opened nodes

/-- Adds a table to the list that a path of keys leads to. -/
def addTable (path : List String) (nodes : Nodes) : Option Nodes :=
  match path.getLast? with
  | none => none
  | some key =>
    within false (fun _ inner =>
      match inner.lookup key with
      | none => some (put inner key (.tables [[]]))
      -- The newest table is the one that later lines go on with.
      | some (.tables items) => some (put inner key (.tables ([] :: items)))
      | some _ => none)
      path.dropLast .opened nodes

/-- Changes the table that was opened last. -/
def inOpened (change : Nodes → Option Nodes) (path : List String) (nodes : Nodes) : Option Nodes :=
  within false (fun _ inner => change inner) path .opened nodes

/-- A character of a key without quotes. -/
def isKeyChar (c : Char) : Bool := c.isAlphanum || c = '_' || c = '-'

/-- Reads a key. -/
def key? : Reader String := fun text =>
  match lineString? text with
  | some (key, rest) => some (String.ofList key, rest)
  | none =>
    let key := text.takeWhile isKeyChar
    if key.isEmpty then none else some (String.ofList key, text.drop key.length)

/-- How deeply values may be nested, and how long a path of keys may be. -/
def depthLimit : Nat := 79

/-- Reads keys with dots between them; the bound limits how many there may be. -/
def keys? : Nat → Reader (List String)
  | 0, _ => none
  | bound + 1, text => do
    let (key, rest) ← key? (skipBlanks text)
    match skipBlanks rest with
    | '.' :: more =>
      let (keys, final) ← keys? bound more
      return (key :: keys, final)
    | after => return ([key], after)

/-- What follows a comment, which ends with its line. -/
def afterComment? (text : List Char) : Option (List Char) :=
  match text with
  | '#' :: rest => some (rest.dropWhile isPlain)
  | _ => some text

/-- What follows the blanks, comments and line ends at the front of a text. -/
def skipLines : Nat → List Char → List Char
  | 0, text => text
  | bound + 1, text =>
    let behind := (afterComment? (skipBlanks text)).getD text
    match afterLineEnd? behind with
    | some rest => skipLines bound rest
    | none => behind

/-- Reads a scalar. -/
def scalar? : Reader Value := fun text =>
  match text with
  | [] => none
  | c :: _ =>
    if c = '"' ∨ c = '\'' then (string? text).map fun (s, rest) => (.text (String.ofList s), rest)
    else
      -- Dates come before numbers, which they start like.
      match afterStart? "true".toList text, afterStart? "false".toList text with
      | some rest, _ => some (.bool true, rest)
      | _, some rest => some (.bool false, rest)
      | none, none =>
        match moment? text with
        | some (written, rest) => some (.text (String.ofList written), rest)
        | none =>
          match float? text with
          | some (x, rest) => some (.float x, rest)
          | none => (integer? text).map fun (n, rest) => (.integer n, rest)

/-- Reads the items of a list behind its bracket; the bound limits how many there may be. -/
def items? (value? : Reader Value) : Nat → Reader (List Value)
  | 0, _ => none
  | bound + 1, text =>
    match skipLines text.length text with
    -- A comma may stand behind the last item.
    | ']' :: rest => some ([], rest)
    | more => do
      let (value, behind) ← value? more
      match skipLines behind.length behind with
      | ',' :: rest =>
        let (values, final) ← items? value? bound rest
        return (value :: values, final)
      | ']' :: rest => return ([value], rest)
      | _ => none

/--
Reads members with commas between them up to the brace; the bound limits how many there may be.
-/
def inlineMembers? (value? : Reader Value) : Nat → Nodes → Reader Nodes
  | 0, _, _ => none
  | bound + 1, nodes, text => do
    let (path, behindPath) ← keys? depthLimit text
    match behindPath with
    | '=' :: more =>
      let (value, behind) ← value? (skipBlanks more)
      let nodes ← assign path value nodes
      match skipBlanks behind with
      -- Behind a comma one more member has to follow.
      | ',' :: rest => inlineMembers? value? bound nodes rest
      | '\x7d' :: rest => return (nodes, rest)
      | _ => none
    | _ => none

/-- Reads a value in which others are nested no deeper than a bound. -/
def value? : Nat → Reader Value
  | 0, text =>
    -- At the bound only scalars are left.
    match text with
    | '[' :: _ | '\x7b' :: _ => none
    | _ => scalar? text
  | depth + 1, text =>
    match text with
    | '[' :: rest => do
      let (values, final) ← items? (value? depth) (rest.length + 1) rest
      return (.list values, final)
    | '\x7b' :: rest =>
      match skipBlanks rest with
      | '\x7d' :: final => some (.table [], final)
      | more => do
        let (nodes, final) ← inlineMembers? (value? depth) (more.length + 1) [] more
        return (.table (membersOf nodes), final)
    | _ => scalar? text

/-- What is known of a document: its members, and the path of the table that was opened last. -/
structure State where
  nodes : Nodes := []
  path : List String := []

/-- Reads one line that holds something: a header or a member. -/
def line? (state : State) : Reader State := fun text =>
  match text with
  -- Two brackets are looked for first, as the first one alone opens a table.
  | '[' :: '[' :: rest => do
    let (path, behind) ← keys? depthLimit rest
    let final ← afterStart? "]]".toList behind
    let nodes ← addTable path state.nodes
    return (⟨nodes, path⟩, final)
  | '[' :: rest => do
    let (path, behind) ← keys? depthLimit rest
    let final ← afterStart? [']'] behind
    let nodes ← openTable path state.nodes
    return (⟨nodes, path⟩, final)
  | _ => do
    let (path, behind) ← keys? depthLimit text
    let more ← afterStart? ['='] behind
    let (value, final) ← value? depthLimit (skipBlanks more)
    let nodes ← inOpened (assign path value) state.path state.nodes
    return (⟨nodes, state.path⟩, final)

/-- Reads lines to the end of a text; the bound limits how many there may be. -/
def lines : Nat → State → List Char → Option State
  | 0, _, _ => none
  | bound + 1, state, text =>
    let behind := skipLines text.length text
    if behind.isEmpty then some state
    else do
      let (next, rest) ← line? state behind
      -- Nothing but a comment may follow on the line.
      let after ← afterComment? (skipBlanks rest)
      if after.isEmpty then some next
      else
        let more ← afterLineEnd? after
        lines bound next more

/-- A text without the byte order mark at its front. -/
def dropMark : List Char → List Char
  | '\ufeff' :: rest => rest
  | text => text

/-- The members that a document sets. -/
def read? (text : List Char) : Option Members :=
  (lines (text.length + 1) {} (dropMark text)).map fun state => membersOf state.nodes

end Manuscript.Config.Toml
