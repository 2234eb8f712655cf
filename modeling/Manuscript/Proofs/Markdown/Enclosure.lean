import Manuscript.Proofs.Markdown.Layout

/-!
What the tokens of a part depend on around it: a paragraph is only text right inside of a tight list,
and a list says how many lists it is in. While tokens are made, a place is all that is known of the
parts around. It is kept up from part to part so that it always says what the way down to it would say.
-/

namespace Manuscript

namespace Token

/-- The token that a path of positions leads to, each position being that of a child. -/
def descend? (token : Token) : List Nat → Option Token
  | [] => some token
  | position :: path => token.children[position]?.bind fun child => child.descend? path

/-- A token that a path leads to stands as many levels further down as the path has positions. -/
theorem holds_of_descend? {path : List Nat} {token found : Token}
    (descended : token.descend? path = some found) : token.Holds path.length found := by
  -- Every position of the path is one step to a child.
  induction path generalizing token with
  | nil => exact (Option.some.inj descended).symm
  | cons position path ih =>
    obtain ⟨child, here, below⟩ := Option.bind_eq_some_iff.mp descended
    exact .of_child (List.mem_of_getElem? here) (ih below)

end Token

namespace Markdown

namespace Node

/-- A part is a list. -/
def isList : Node → Bool
  | .block (.list ..) => true
  | _ => false

/-- A part is a quote. -/
def isQuote : Node → Bool
  | .block (.quote _) => true
  | _ => false

/--
The part that a path of positions leads to, together with the parts around it, the innermost first;
those around the part at the start are given.
-/
def reach? (around : List Node) (node : Node) : List Nat → Option (List Node × Node)
  | [] => some (around, node)
  | position :: path => node.inner[position]?.bind fun part => part.reach? (node :: around) path

/-- Of the lists and quotes around a part the innermost one is a tight list. -/
def InTightList (around : List Node) : Prop :=
  ∃ ordered items, around.find? (fun part => part.isList || part.isQuote) =
    some (.block (.list ordered true items))

/-- The place of the parts right inside of a part. -/
def placeInside (place : Place) : Node → Place
  | .block (.list _ tight _) => place.inList tight
  | .block (.quote _) => place.inQuote
  | _ => place.inner

end Node

open Node

/-- A place says of the parts around it what they are. -/
structure Place.Tells (place : Place) (around : List Node) : Prop where
  /-- It is tight when a tight list is around it, with no other list and no quote between. -/
  tight : place.tight = true ↔ InTightList around
  /-- It counts the lists. -/
  lists : place.lists = around.countP isList
  /-- Each part is a level. -/
  depth : place.depth = around.length

/-- The parts at the top of a document have nothing around them. -/
theorem Place.tells_nil : ({} : Place).Tells [] := by
  refine ⟨⟨nofun, ?_⟩, rfl, rfl⟩
  -- Where nothing is around, there is no tight list either.
  rintro ⟨ordered, items, found⟩
  cases found

/-- A list replaces what is said of the parts inside, a quote a part of it, and others keep it. -/
theorem Place.Tells.inside {place : Place} {around : List Node} (tells : place.Tells around)
    (node : Node) : (node.placeInside place).Tells (node :: around) := by
  obtain ⟨isTight, lists, depth⟩ := tells
  -- Of parts that are neither lists nor quotes only the level is noted.
  have other (noList : node.isList = false) (noQuote : node.isQuote = false) :
      place.inner.Tells (node :: around) := by
    refine ⟨?_, ?_, congrArg (· + 1) depth⟩
    · rw [InTightList, List.find?_cons_of_neg (by simp [noList, noQuote])]
      exact isTight
    · rw [List.countP_cons_of_neg (by simp [noList])]
      exact lists
  cases node with
  | item blocks => exact other rfl rfl
  | inline content => exact other rfl rfl
  | block held =>
    cases held with
    | list ordered tight items =>
      refine ⟨?_, ?_, congrArg (· + 1) depth⟩
      · -- It is the innermost one itself, whatever is around it.
        rw [InTightList, List.find?_cons_of_pos rfl]
        cases tight <;> simp [placeInside, Place.inList]
      · rw [List.countP_cons_of_pos rfl]
        exact congrArg (· + 1) lists
    | quote blocks =>
      -- It ends what a list around it says of its items, but not the count of lists.
      refine ⟨?_, ?_, congrArg (· + 1) depth⟩
      · rw [InTightList, List.find?_cons_of_pos rfl]
        simp [placeInside, Place.inQuote]
      · rw [List.countP_cons_of_neg (by simp [isList])]
        exact lists
    | heading level content => exact other rfl rfl
    | paragraph content => exact other rfl rfl
    | code info literal => exact other rfl rfl
    | html literal => exact other rfl rfl
    | thematicBreak => exact other rfl rfl
    | table alignments header rows => exact other rfl rfl

namespace Node

variable {place : Place} {node : Node}

/-- The parts around a part are as many more as the path to it has positions. -/
theorem length_of_reach? {path : List Nat} {around outer : List Node} {part : Node}
    (reached : node.reach? around path = some (outer, part)) :
    outer.length = around.length + path.length := by
  -- Each part that is passed is around the next one.
  induction path generalizing around node with
  | nil =>
    obtain ⟨rfl, rfl⟩ := Prod.mk.inj (Option.some.inj reached)
    rfl
  | cons position path ih =>
    obtain ⟨next, -, further⟩ := Option.bind_eq_some_iff.mp reached
    rw [ih further, List.length_cons, List.length_cons]
    omega

/-- From running text every path leads to running text. -/
theorem isInline_of_reach? {path : List Nat} {around outer : List Node} {part : Node}
    (isInline : node.isInline = true) (reached : node.reach? around path = some (outer, part)) :
    part.isInline = true := by
  -- Each step of the path stays inside of the running text.
  induction path generalizing around node with
  | nil =>
    obtain ⟨rfl, rfl⟩ := Prod.mk.inj (Option.some.inj reached)
    exact isInline
  | cons position path ih =>
    obtain ⟨next, here, further⟩ := Option.bind_eq_some_iff.mp reached
    exact ih (isInline_of_mem_inner isInline (List.mem_of_getElem? here)) further

/-- In what holds blocks or items the tokens of these are the children, at the place inside. -/
theorem children_token (shallow : place.depth < maxDepth) {part : Node}
    (member : part ∈ node.inner) (noInline : part.isInline = false) :
    (node.token place).children = node.inner.map (token (node.placeInside place)) := by
  have notDeep : ¬ maxDepth ≤ place.depth := Nat.not_le.mpr shallow
  -- Running text is inside of the other parts only, or nothing at all.
  have notText {contents : List Inline} (among : part ∈ contents.map Node.inline) : False := by
    obtain ⟨content, -, rfl⟩ := List.mem_map.mp among
    cases noInline
  cases node with
  | inline content => exact (notText member).elim
  | item blocks =>
    -- The blocks of an item stand one level below it.
    rw [token, itemToken, if_neg notDeep]
    exact blockTokens_eq_token place.inner blocks
  | block held =>
    cases held with
    | quote blocks =>
      rw [token, blockToken, if_neg notDeep]
      exact blockTokens_eq_token place.inQuote blocks
    | list ordered tight items =>
      rw [token, blockToken, if_neg notDeep]
      -- So do the items of a list, which tell how it is laid out.
      refine (itemTokens_eq_map (place.inList tight) items).trans ?_
      exact (List.map_map (f := Node.item) (g := token (place.inList tight))).symm
    | heading level content => exact (notText member).elim
    | paragraph content => exact (notText member).elim
    | table alignments header rows => exact (notText member).elim
    | code info literal => cases member
    | html literal => cases member
    | thematicBreak => cases member

/--
A path to a block or an item above the depth limit leads through the tokens to the token of this
part, made for a place that tells what is around it.
-/
theorem exists_place_of_reach? {path : List Nat} {around outer : List Node} {part : Node}
    (tells : place.Tells around) (reached : node.reach? around path = some (outer, part))
    (noInline : part.isInline = false) (room : outer.length < maxDepth) :
    ∃ within : Place, within.Tells outer ∧
      (node.token place).descend? path = some (part.token within) := by
  -- Each position leads one part further inside, and the place is kept up with the parts passed.
  induction path generalizing around node place with
  | nil =>
    obtain ⟨rfl, rfl⟩ := Prod.mk.inj (Option.some.inj reached)
    exact ⟨place, tells, rfl⟩
  | cons position path ih =>
    obtain ⟨next, here, further⟩ := Option.bind_eq_some_iff.mp reached
    -- The path has at least one position left, so that the limit is further on.
    have shallow : place.depth < maxDepth := by
      have longer := length_of_reach? further
      rw [List.length_cons] at longer
      rw [tells.depth]
      omega
    -- Running text would not lead to a block or an item any more.
    have nextNoInline : next.isInline = false := by
      rw [Bool.eq_false_iff]
      intro isInline
      rw [isInline_of_reach? isInline further] at noInline
      cases noInline
    obtain ⟨within, within_tells, descended⟩ := ih (tells.inside node) further
    refine ⟨within, within_tells, ?_⟩
    rw [Token.descend?, children_token shallow (List.mem_of_getElem? here) nextNoInline,
      List.getElem?_map, here]
    exact descended

/-- A token of the kind of lists is that of a list above the depth limit. -/
theorem eq_list_of_kind_token (isList : (node.token place).kind = .list) :
    place.depth < maxDepth ∧ ∃ ordered tight items, node = .block (.list ordered tight items) := by
  have form := form_token place node
  generalize node.token place = made at form isList
  -- Of the forms only a token around others can be of this kind, and then it stands for a list.
  cases form with
  | flattened node deep =>
    rcases node.flattened_cases with same | same
    · -- What is flattened is a text or a paragraph.
      rw [same] at isList
      cases isList
    · rw [same] at isList
      cases isList
  | literal isLiteral raw attrs =>
    obtain rfl := isList
    cases isLiteral
  | mark isMark =>
    obtain rfl := isList
    cases isMark
  | around shallow wraps deeper attrs =>
    obtain rfl := isList
    rcases wraps.cases with others | ⟨isItem, -⟩ | ⟨-, found⟩
    · cases others
    · cases isItem
    · exact ⟨shallow, found⟩
  | table shallow alignments header rows => cases isList

/-- In running text there are no lists. -/
theorem kind_ne_list_of_isInline {levels : Nat} {found : Token} (isInline : node.isInline = true)
    (held : (node.token place).Holds levels found) : found.kind ≠ .list := by
  -- What is inside of running text is running text again, all the way down.
  induction levels generalizing place node with
  | zero =>
    obtain rfl : found = node.token place := held
    intro isList
    obtain ⟨-, ordered, tight, items, rfl⟩ := eq_list_of_kind_token isList
    cases isInline
  | succ levels ih =>
    obtain ⟨child, member, deeper⟩ := held
    rcases (form_token place node).exists_of_mem_children member with
      ⟨noInline, -⟩ | ⟨-, part, inside, within, -, rfl⟩ | ⟨-, noInline, -⟩
    · rw [isInline] at noInline
      cases noInline
    · -- A child that is a node is running text itself; the others are texts.
      exact ih (isInline_of_mem_inner isInline inside) deeper
    · rw [isInline] at noInline
      cases noInline

end Node

/-- In the cells of a table there are no lists. -/
theorem kind_ne_list_of_cellTokens {depth levels : Nat} {isHead : Bool}
    {alignments : List Alignment} {cells : List (List Inline)} {cell found : Token}
    (member : cell ∈ cellTokens depth isHead alignments cells) (held : cell.Holds levels found) :
    found.kind ≠ .list := by
  cases levels with
  | zero =>
    obtain ⟨contents, -, alignment?, rfl⟩ := exists_of_mem_cellTokens member
    obtain rfl : found = cellToken depth isHead alignment? contents := held
    rw [kind_cellToken]
    nofun
  | succ levels =>
    -- Below a cell there is running text, which holds no list.
    obtain ⟨child, inside, deeper⟩ := held
    obtain ⟨_, -, content, -, rfl⟩ := exists_of_mem_children_cellTokens member inside
    exact kind_ne_list_of_isInline rfl deeper

/-- In a table there are no lists. -/
theorem kind_ne_list_of_tableToken {depth levels : Nat} {alignments : List Alignment}
    {header : List (List Inline)} {rows : List (List (List Inline))} {found : Token}
    (held : (tableToken depth alignments header rows).Holds levels found) : found.kind ≠ .list := by
  -- Above the cells are the table, its two sections, and the rows of the body.
  match levels, held with
  | 0, held =>
    obtain rfl : found = tableToken depth alignments header rows := held
    nofun
  | 1, ⟨part, inTable, held⟩ =>
    obtain rfl : found = part := held
    rw [children_tableToken] at inTable
    rcases List.mem_cons.mp inTable with rfl | inBody
    · nofun
    · obtain rfl := List.mem_singleton.mp inBody
      nofun
  -- Further down the way leads into a cell, which holds running text.
  | levels + 2, ⟨part, inTable, below, inPart, deeper⟩ =>
    rw [children_tableToken] at inTable
    rcases List.mem_cons.mp inTable with rfl | inBody
    · exact kind_ne_list_of_cellTokens inPart deeper
    · obtain rfl := List.mem_singleton.mp inBody
      obtain ⟨row, -, rfl⟩ := List.mem_map.mp inPart
      match levels, deeper with
      | 0, held =>
        obtain rfl : found = rowToken (depth + 4) alignments row := held
        nofun
      | levels + 1, ⟨cell, inRow, further⟩ => exact kind_ne_list_of_cellTokens inRow further

namespace Node

variable {place : Place} {node : Node}

/--
A child with a list in it, or one that is a list, is the token of the part at its own position. In
what was flattened, in tables and in running text there are no lists.
-/
theorem exists_part_of_child {position levels : Nat} {child found : Token}
    (here : (node.token place).children[position]? = some child) (held : child.Holds levels found)
    (isList : found.kind = .list) :
    ∃ part, node.inner[position]? = some part ∧ child = part.token (node.placeInside place) := by
  have member := List.mem_of_getElem? here
  -- Only what holds blocks or items is left, and there the children are those of the parts, in order.
  rcases (form_token place node).exists_of_mem_children member with
    ⟨-, text, rfl⟩ | ⟨shallow, part, inside, within, -, isToken⟩ |
      ⟨-, -, alignments, header, rows, isTable⟩
  · -- A collapsed paragraph holds a text.
    obtain ⟨-, rfl⟩ := held.of_childless rfl
    cases isList
  · cases inline : part.isInline with
    | true =>
      rw [isToken] at held
      exact absurd isList (kind_ne_list_of_isInline inline held)
    | false =>
      rw [children_token shallow inside inline, List.getElem?_map] at here
      obtain ⟨other, there, rfl⟩ := Option.map_eq_some_iff.mp here
      exact ⟨other, there, rfl⟩
  · -- There is no list inside of a table.
    rw [isTable] at member
    exact absurd isList (kind_ne_list_of_tableToken (.of_child member held))

/-- A path through the tokens to one of a list leads through the parts to this list. -/
theorem exists_reach?_of_descend? {path : List Nat} {around : List Node} {found : Token}
    (tells : place.Tells around) (descended : (node.token place).descend? path = some found)
    (isList : found.kind = .list) :
    ∃ outer part, ∃ within : Place, node.reach? around path = some (outer, part) ∧
      within.Tells outer ∧ found = part.token within := by
  -- At each child the list is still further down or reached, so that the child stands for a part.
  induction path generalizing around node place with
  | nil => exact ⟨around, node, place, rfl, tells, (Option.some.inj descended).symm⟩
  | cons position path ih =>
    obtain ⟨child, here, below⟩ := Option.bind_eq_some_iff.mp descended
    obtain ⟨part, there, rfl⟩ := exists_part_of_child here (Token.holds_of_descend? below) isList
    obtain ⟨outer, last, within, reached, rest⟩ := ih (tells.inside node) below
    refine ⟨outer, last, within, ?_, rest⟩
    rw [reach?, there]
    exact reached

end Node

/--
The part of a document that a path leads to, together with the parts around it, the innermost first;
the path begins with the position of a block at the top.
-/
def Document.reach? (document : Document) : List Nat → Option (List Node × Node)
  | [] => none
  | position :: path => document[position]?.bind fun block => (Node.block block).reach? [] path

/-- The tokens of a document say of its paragraphs and lists what is around these. -/
structure AreEnclosed (document : Document) (tokens : List Token) : Prop where
  /--
  A paragraph above the depth limit is a text if the innermost one of the lists and quotes around it
  is a tight list, and else a paragraph, unless it is displayed math on its own. Its token is found
  where the paragraph is, with the blank lines at the top counted as well.
  -/
  paragraph : ∀ position path around content,
    document.reach? (position :: path) = some (around, .block (.paragraph content)) →
      around.length < maxDepth → (∀ literal, content ≠ [.math true literal]) →
        ∃ kind, tokens[2 * position]?.bind (fun token => token.descend? path) =
            some (.parent kind (inlineTokens (around.length + 1) content)) ∧
          (kind = .blockText ↔ InTightList around) ∧ (kind = .paragraph ↔ ¬ InTightList around)
  /-- A list above the depth limit has a token that says how many lists are around it. -/
  list : ∀ position path around ordered tight items,
    document.reach? (position :: path) = some (around, .block (.list ordered tight items)) →
      around.length < maxDepth →
        ∃ token, tokens[2 * position]?.bind (fun token => token.descend? path) = some token ∧
          token.kind = .list ∧
          token.attrs.get? "depth" = some (.number (.natural (around.countP isList)))
  /-- There are no other tokens of lists. -/
  onlyLists : ∀ position path token,
    tokens[position]?.bind (fun token => token.descend? path) = some token → token.kind = .list →
      position % 2 = 0 ∧ ∃ around ordered tight items,
        document.reach? (position / 2 :: path) =
          some (around, .block (.list ordered tight items)) ∧
        around.length < maxDepth ∧
        token.attrs.get? "depth" = some (.number (.natural (around.countP isList)))

/-- The blocks of a document have their tokens at the even positions. -/
theorem getElem?_tokensOfDocument (document : Document) (position : Nat) :
    (tokensOfDocument document)[2 * position]? =
      document[position]?.map fun block => (Node.block block).token {} := by
  -- Between two blocks there is a blank line, so that the blocks have the even positions.
  rw [tokensOfDocument, List.getElem?_intersperse, blockTokens_eq_map, if_pos (by omega),
    List.getElem?_map, Nat.mul_div_cancel_left position (by decide)]
  rfl

/--
A path to a block or an item above the depth limit leads through the tokens of a document to the
token of this part, made for a place that tells what is around it.
-/
theorem Document.exists_place_of_reach? {document : Document} {position : Nat} {path : List Nat}
    {around : List Node} {part : Node}
    (reached : document.reach? (position :: path) = some (around, part))
    (noInline : part.isInline = false) (room : around.length < maxDepth) :
    ∃ place : Place, place.Tells around ∧
      (tokensOfDocument document)[2 * position]?.bind (fun token => token.descend? path) =
        some (part.token place) := by
  obtain ⟨block, here, further⟩ := Option.bind_eq_some_iff.mp reached
  -- Inside of the block the path goes on as it does inside of any node.
  obtain ⟨place, tells, descended⟩ :=
    Node.exists_place_of_reach? Place.tells_nil further noInline room
  refine ⟨place, tells, ?_⟩
  rw [getElem?_tokensOfDocument, here]
  exact descended

/-- At a place that tells what is around it, the token of a list says how many lists there are. -/
theorem depth_of_list {place : Place} {around : List Node} (tells : place.Tells around)
    (shallow : place.depth < maxDepth) (ordered tight : Bool)
    (items : List (List (Block (List Inline)))) :
    ((Node.block (.list ordered tight items)).token place).kind = .list ∧
      ((Node.block (.list ordered tight items)).token place).attrs.get? "depth" =
        some (.number (.natural (around.countP isList))) := by
  -- The place has counted the lists around it.
  rw [token, blockToken, if_neg (Nat.not_le.mpr shallow), ← tells.lists]
  refine ⟨rfl, ?_⟩
  simp [Token.withAttr, Attrs.get?_insert]

/-- At a place that tells what is around it, a paragraph is a text in a tight list only. -/
theorem kind_of_paragraph {place : Place} {around : List Node} (tells : place.Tells around)
    (shallow : place.depth < maxDepth) {content : List Inline}
    (noMath : ∀ literal, content ≠ [.math true literal]) :
    ∃ kind, (Node.block (.paragraph content)).token place =
        .parent kind (inlineTokens (around.length + 1) content) ∧
      (kind = .blockText ↔ InTightList around) ∧ (kind = .paragraph ↔ ¬ InTightList around) := by
  refine ⟨if place.tight then .blockText else .paragraph, ?_, ?_⟩
  · rw [token, blockToken, if_neg (Nat.not_le.mpr shallow), ← tells.depth]
    -- Displayed math on its own is the only content that there is no token around.
    simp only [paragraphToken]
  · rw [← tells.tight]
    cases place.tight <;> simp

/--
The tokens of every document say of its paragraphs and lists what is around these, through lists,
items and quotes in whatever order.
-/
theorem areEnclosed_tokensOfDocument (document : Document) :
    AreEnclosed document (tokensOfDocument document) := by
  -- Paragraphs and lists are found at their places, and these tell what is around them.
  refine ⟨fun position path around content reached room noMath => ?_,
    fun position path around ordered tight items reached room => ?_,
    fun position path token descended isList => ?_⟩
  · obtain ⟨place, tells, found⟩ := Document.exists_place_of_reach? reached rfl room
    obtain ⟨kind, same, kinds⟩ := kind_of_paragraph tells (tells.depth ▸ room) noMath
    exact ⟨kind, found.trans (congrArg some same), kinds⟩
  · obtain ⟨place, tells, found⟩ := Document.exists_place_of_reach? reached rfl room
    exact ⟨_, found, depth_of_list tells (tells.depth ▸ room) ordered tight items⟩
  -- Blocks stand at even positions, as the blank lines between them take the others.
  · obtain ⟨top, here, below⟩ := Option.bind_eq_some_iff.mp descended
    by_cases even : position % 2 = 0
    · have atBlock : position = 2 * (position / 2) := by omega
      rw [atBlock, getElem?_tokensOfDocument] at here
      obtain ⟨block, there, rfl⟩ := Option.map_eq_some_iff.mp here
      obtain ⟨around, part, place, reached, tells, rfl⟩ :=
        Node.exists_reach?_of_descend? Place.tells_nil below isList
      obtain ⟨shallow, ordered, tight, items, rfl⟩ := Node.eq_list_of_kind_token isList
      refine ⟨even, around, ordered, tight, items, ?_, tells.depth ▸ shallow,
        (depth_of_list tells shallow ordered tight items).2⟩
      rw [Document.reach?, there]
      exact reached
    · -- A blank line is no list, and there is nothing below it.
      rw [tokensOfDocument, List.getElem?_intersperse, if_neg even] at here
      split at here
      · obtain rfl := Option.some.inj here
        obtain ⟨-, rfl⟩ := (Token.holds_of_descend? below).of_childless rfl
        cases isList
      · cases here

/-- The quote puts an end to the outer list being tight, but not to the lists being counted. -/
example :
    let document : Document :=
      [.list true true [[.paragraph [.text "a"],
        .quote [.paragraph [.text "b"], .list false true [[.paragraph [.text "c"]]]]]]]
    let tokenAt (path : List Nat) := (tokensOfDocument document)[0]?.bind (Token.descend? · path)
    (tokenAt [0, 0]).map Token.kind = some .blockText ∧
      (tokenAt [0, 1, 0]).map Token.kind = some .paragraph ∧
      (tokenAt [0, 1, 1, 0, 0]).map Token.kind = some .blockText ∧
      (tokenAt [0, 1, 1]).bind (·.attrs.get? "depth") = some (.number (.natural 1)) :=
  ⟨rfl, rfl, rfl, rfl⟩

end Markdown

end Manuscript
