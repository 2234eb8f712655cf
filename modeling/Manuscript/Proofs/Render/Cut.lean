import Manuscript.Proofs.Render.Walk

/-!
Trees cut at a depth: rendering with a depth limit is rendering without one, once every tree that
reaches the limit is cut down to its plain text there.
-/

namespace Manuscript

namespace Token

/-- A token with its list of children changed. -/
def mapChildren (change : List Token → List Token) (token : Token) : Token :=
  { token with children? := token.children?.map change }

/-- Tokens with what is in their cells changed. -/
def mapCells (change : Token → Token) (tokens : List Token) : List Token :=
  tokens.map fun token =>
    if token.kind = .tableCell then token.mapChildren (List.map change) else token

/-- A row with what is in its cells changed; other tokens stay as they are. -/
def mapRow (change : Token → Token) (token : Token) : Token :=
  if token.kind = .tableRow then token.mapChildren (mapCells change) else token

/-- A section with what is in its cells changed; other tokens in a table stay as they are. -/
def mapSection (change : Token → Token) (token : Token) : Token :=
  match token.kind with
  | .tableHead => token.mapChildren fun children => (mapCells change children).map (mapRow change)
  | .tableBody => token.mapChildren (List.map (mapRow change))
  | _ => token

/-- A token with the tokens changed that are rendered one level below it. -/
def mapInner (change : Token → Token) (token : Token) : Token :=
  match token.kind with
  | .table => token.mapChildren (List.map (mapSection change))
  | .tableHead | .tableBody | .tableRow | .tableCell => token.mapChildren (List.map change)
  | _ => if token.raw?.isSome then token else token.mapChildren (List.map change)

/-- A tree cut where it has gone down by a number of levels: what is there is left as its text. -/
def cut : Nat → Token → Token
  | 0, token => .ofText token.plainText
  | room + 1, token => token.mapInner (cut room)

/-- A token stands a number of levels below another one when this is rendered. -/
def Reaches : Nat → Token → Token → Prop
  | 0, token, found => found = token
  | levels + 1, token, found => ∃ below ∈ token.inner, Reaches levels below found

section MapInner

variable (change : Token → Token)

/-- Changing the children of a token keeps its kind. -/
@[simp] theorem kind_mapChildren (changeAll : List Token → List Token) (token : Token) :
    (token.mapChildren changeAll).kind = token.kind := rfl

/-- Changing the children of a token keeps its attributes. -/
@[simp] theorem attrs_mapChildren (changeAll : List Token → List Token) (token : Token) :
    (token.mapChildren changeAll).attrs = token.attrs := rfl

/-- A change that keeps the empty list changes the children, whether there is a list or not. -/
theorem children_mapChildren (changeAll : List Token → List Token) (empty : changeAll [] = [])
    (token : Token) : (token.mapChildren changeAll).children = changeAll token.children := by
  obtain ⟨kind, raw?, children?, attrs⟩ := token
  cases children? with
  -- A missing list is read as an empty one, and is changed into that.
  | none => exact empty.symm
  | some children => rfl

/-- The cells of changed tokens are the changed cells. -/
theorem cellsOf_mapCells (tokens : List Token) :
    cellsOf (mapCells change tokens) =
      (cellsOf tokens).map (mapChildren (List.map change)) := by
  induction tokens with
  | nil => rfl
  | cons token rest ih =>
    rw [mapCells, List.map_cons, ← mapCells, cellsOf_cons, cellsOf_cons, ih]
    -- A token that is no cell is left as it is and is still no cell.
    by_cases isCell : token.kind = .tableCell <;> simp [isCell]

/-- The header cells of a changed head are the changed header cells. -/
theorem headCells_mapRow (tokens : List Token) :
    headCells ((mapCells change tokens).map (mapRow change)) =
      (headCells tokens).map (mapChildren (List.map change)) := by
  induction tokens with
  | nil => rfl
  | cons token rest ih =>
    rw [mapCells, List.map_cons, ← mapCells, List.map_cons, headCells_cons, headCells_cons, ih]
    -- Rows and cells keep their kinds, so the same tokens stand in the header as before.
    by_cases isRow : token.kind = .tableRow
    · have children := children_mapChildren (mapCells change) rfl token
      simp [isRow, mapRow, children, cellsOf_mapCells]
    · by_cases isCell : token.kind = .tableCell <;> simp [isRow, isCell, mapRow]

/-- The rows of a changed body are the changed rows. -/
theorem bodyRows_mapRow (tokens : List Token) :
    bodyRows (tokens.map (mapRow change)) =
      (bodyRows tokens).map (List.map (mapChildren (List.map change))) := by
  induction tokens with
  | nil => rfl
  | cons token rest ih =>
    rw [List.map_cons, bodyRows_cons, bodyRows_cons, ih]
    -- A changed row has as many cells as before, so the same rows are left out.
    by_cases isRow : token.kind = .tableRow
    · have children := children_mapChildren (mapCells change) rfl token
      by_cases empty : cellsOf token.children = [] <;>
        simp [isRow, mapRow, children, cellsOf_mapCells, empty]
    · simp [isRow, mapRow]

/-- A changed section adds the changed parts. -/
theorem sectionParts_mapSection (token : Token) :
    (token.mapSection change).sectionParts =
      token.sectionParts.map (TablePart.map (List.map change)) := by
  have filled (cell : Token) : (cell.mapChildren (List.map change)).children =
      cell.children.map change := children_mapChildren (List.map change) rfl cell
  -- A head adds header cells, a body adds rows, and nothing else is changed in a table.
  by_cases isHead : token.kind = .tableHead
  · have children := children_mapChildren
      (fun children => (mapCells change children).map (mapRow change)) rfl token
    simp [mapSection, sectionParts, isHead, children, headCells_mapRow, headerPart, TablePart.map,
      filled]
  by_cases isBody : token.kind = .tableBody
  · have children := children_mapChildren (List.map (mapRow change)) rfl token
    simp [mapSection, sectionParts, isBody, children, bodyRows_mapRow, rowPart, TablePart.map,
      filled]
  · have same : token.mapSection change = token := by
      unfold mapSection
      split <;> simp_all
    -- Any other token has no cells in the table.
    have nothing : token.sectionParts = [] := by
      unfold sectionParts
      split <;> simp_all
    rw [same, nothing, List.map_nil]

/-- Changing what is below a token changes the contents of its outline. -/
theorem outline_mapInner (token : Token) :
    (token.mapInner change).outline = token.outline.map (List.map change) := by
  have filled : (token.mapChildren (List.map change)).children = token.children.map change :=
    children_mapChildren (List.map change) rfl token
  obtain ⟨kind, raw?, children?, attrs⟩ := token
  -- A table has contents in all of its cells, every other token has at most one.
  by_cases isTable : kind = .table
  · subst isTable
    have sections := children_mapChildren (List.map (mapSection change)) rfl
      ⟨.table, raw?, children?, attrs⟩
    simp [mapInner, outline, Outline.map, sections, List.flatMap_map, List.map_flatMap,
      sectionParts_mapSection]
  · -- A text of its own stays, and else the children are changed.
    cases kind <;> cases raw? <;>
      first
        | exact absurd rfl isTable
        | rfl
        | simpa [mapInner, outline, Outline.map, mapChildren] using filled

/-- Changing no list of children changes nothing. -/
theorem mapChildren_same {changeAll : List Token → List Token}
    (same : ∀ tokens, changeAll tokens = tokens) (token : Token) :
    token.mapChildren changeAll = token := by
  obtain ⟨kind, raw?, children?, attrs⟩ := token
  -- A missing list stays missing.
  cases children? with
  | none => rfl
  | some children => simp [mapChildren, same]

/-- Changing nothing below a token gives the token. -/
theorem mapInner_id (token : Token) : token.mapInner id = token := by
  -- Changing nothing is seen from the cells up to the token itself.
  have all (tokens : List Token) : tokens.map id = tokens := List.map_id tokens
  have cells (tokens : List Token) : mapCells id tokens = tokens :=
    List.map_id'' (fun token => by rw [mapChildren_same all, ite_self]) tokens
  have row (token : Token) : mapRow id token = token := by
    rw [mapRow, mapChildren_same cells, ite_self]
  -- A section is a head or a body; all else is not looked into.
  have part (token : Token) : mapSection id token = token := by
    unfold mapSection
    split
    · exact mapChildren_same (fun tokens => by rw [cells, List.map_id'' row]) token
    · exact mapChildren_same (List.map_id'' row) token
    · rfl
  unfold mapInner
  split
  case h_1 => exact mapChildren_same (List.map_id'' part) token
  case h_6 => split <;> first | rfl | exact mapChildren_same all token
  all_goals exact mapChildren_same all token

/-- Changing what is below a token keeps its kind. -/
@[simp] theorem kind_mapInner (token : Token) : (token.mapInner change).kind = token.kind := by
  unfold mapInner
  split <;> first | rfl | (split <;> rfl)

/-- Changing what is below a token keeps its attributes. -/
@[simp] theorem attrs_mapInner (token : Token) : (token.mapInner change).attrs = token.attrs := by
  unfold mapInner
  split <;> first | rfl | (split <;> rfl)

end MapInner

end Token

namespace Renderer

variable (r : Renderer)

/-- The same renderer for trees of any depth. -/
def unlimited : Renderer := { r with depthLimit? := none }

/-- The limit does not matter for what is written along an outline. -/
theorem write_unlimited (number : Nat) (kind : TokenKind) (attrs : Attrs)
    (outline : Outline String) :
    r.unlimited.write number kind attrs outline = r.write number kind attrs outline := by
  cases outline <;> rfl

/-- Tokens that are rendered like changed ones are rendered like these in a row. -/
theorem renderTokens_eq_map {other : Renderer} {depth depth' : Nat} {change : Token → Token}
    {tokens : List Token}
    (same : ∀ token ∈ tokens, ∀ tables,
      r.renderToken depth tables token = other.renderToken depth' tables (change token))
    (tables : Nat) :
    r.renderTokens depth tables tokens = other.renderTokens depth' tables (tokens.map change) := by
  -- The tokens are changed one by one, and so are the texts.
  rw [renderTokens_eq_thread, renderTokens_eq_thread, thread_map, thread_congr same]

/--
A token above the limit is rendered like a changed one without a limit when all tokens below it
are, and when the change keeps what is written of the token itself.
-/
theorem renderToken_eq_mapInner {depth depth' : Nat} (shallow : r.flattens depth = false)
    {change : Token → Token} {token : Token}
    (same : ∀ below ∈ token.inner, ∀ tables,
      r.renderToken (depth + 1) tables below =
        r.unlimited.renderToken (depth' + 1) tables (change below)) (tables : Nat) :
    r.renderToken depth tables token =
      r.unlimited.renderToken depth' tables (token.mapInner change) := by
  -- Both tokens give the same texts inside, and are written alike from these.
  have texts : r.innerTexts depth tables token =
      r.unlimited.innerTexts depth' tables (token.mapInner change) := by
    unfold innerTexts
    rw [Token.outline_mapInner, Outline.contents_map, thread_map]
    simp only [Token.ownNumbers, Token.kind_mapInner]
    refine thread_congr (fun tokens member count => ?_) _
    -- What holds inside of the token holds in each of its lists.
    exact r.renderTokens_eq_map
      (fun below within => same below (List.mem_flatten.mpr ⟨tokens, member, within⟩)) count
  rw [r.renderToken_eq_write shallow, r.unlimited.renderToken_eq_write rfl, ← texts,
    write_unlimited, Token.outline_mapInner, Outline.refill_map, Token.kind_mapInner,
    Token.attrs_mapInner]

section Limited

variable {r : Renderer} {limit : Nat} (limited : r.depthLimit? = some limit)

include limited

/-- With a limit a tree is rendered as without one, once it is cut where the limit is. -/
theorem renderToken_eq_cut {depth room : Nat} (level : limit - depth = room)
    (depth' tables : Nat) (token : Token) :
    r.renderToken depth tables token =
      r.unlimited.renderToken depth' tables (token.cut room) := by
  -- The room shrinks by one with every level, and is used up at the limit.
  induction room generalizing depth depth' tables token with
  | zero =>
    rw [renderToken_of_no_room limited level]
    rfl
  | succ room ih =>
    exact r.renderToken_eq_mapInner (flattens_of_room limited level)
      (fun below _ count => ih (by omega) (depth' + 1) count below) tables

/-- A tree that does not reach the limit is rendered as without one. -/
theorem renderToken_eq_unlimited {depth room : Nat} (level : limit - depth = room)
    (depth' tables : Nat) {token : Token} (within : ∀ found, ¬ token.Reaches room found) :
    r.renderToken depth tables token = r.unlimited.renderToken depth' tables token := by
  induction room generalizing depth depth' tables token with
  | zero => exact absurd rfl (within token)
  | succ room ih =>
    -- What is below the token has one level less to go, and is not changed.
    have unchanged : r.renderToken depth tables token =
        r.unlimited.renderToken depth' tables (token.mapInner id) :=
      r.renderToken_eq_mapInner (flattens_of_room limited level)
        (fun below member count => ih (by omega) (depth' + 1) count
          fun found reached => within found ⟨below, member, reached⟩) tables
    rwa [Token.mapInner_id] at unchanged

end Limited

/--
Rendering with the depth limit is rendering the cut tree without one, and trees that do not reach
the limit need no cut.
-/
theorem renderToken_depth_limit (templates : TemplateSet) (options : RenderOptions)
    (tables : Nat) (token : Token) :
    let r := Renderer.ofTemplates templates options
    r.renderToken 0 tables token = r.unlimited.renderToken 0 tables (token.cut maxDepth) ∧
      ((∀ found, ¬ token.Reaches maxDepth found) →
        r.renderToken 0 tables token = r.unlimited.renderToken 0 tables token) :=
  ⟨renderToken_eq_cut rfl (Nat.sub_zero maxDepth) 0 tables token,
    renderToken_eq_unlimited rfl (Nat.sub_zero maxDepth) 0 tables⟩

/-- Emphasized text ends two levels below the top, and is rendered as without a limit. -/
theorem renderToken_depth_limit_emphasis :
    let r := Renderer.ofTemplates .builtin {}
    let token := Token.parent .emphasis [.ofText "a"]
    (∀ found, ¬ token.Reaches maxDepth found) ∧
      r.renderToken 0 0 token = r.unlimited.renderToken 0 0 token := by
  -- Below the text there is nothing, so no third level is reached.
  have within : ∀ found,
      ¬ (Token.parent .emphasis [.ofText "a"]).Reaches (254 + 1 + 1) found := by
    rintro found ⟨below, member, deeper⟩
    have isText : below = .ofText "a" := List.mem_singleton.mp member
    subst isText
    obtain ⟨further, nothing, -⟩ := deeper
    exact List.not_mem_nil nothing
  exact ⟨within, (renderToken_depth_limit .builtin {} 0 _).2 within⟩

end Renderer

end Manuscript
