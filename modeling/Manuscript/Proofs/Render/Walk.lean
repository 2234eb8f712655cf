import Manuscript.Proofs.Render.Outline

/-! Rendering is a walk along outlines: one equation for tokens of all kinds, tables included. -/

namespace Manuscript

namespace Renderer

variable (r : Renderer)

/-- Parts of a table, rendered and added to what was assembled. -/
def assembleParts (depth tables : Nat) (table : TableAssembly)
    (parts : List (TablePart (List Token))) : TableAssembly × Nat :=
  let (texts, after) := thread (r.renderTokens depth) tables (parts.flatMap TablePart.contents)
  ((TablePart.refill parts texts).foldl r.addPart table, after)

/-- Parts are added one group after another. -/
theorem assembleParts_append (depth tables : Nat) (table : TableAssembly)
    (front back : List (TablePart (List Token))) :
    r.assembleParts depth tables table (front ++ back) =
      r.assembleParts depth (r.assembleParts depth tables table front).2
        (r.assembleParts depth tables table front).1 back := by
  -- The texts are cut where the contents of the front end, as each content gives one text.
  have size : (thread (r.renderTokens depth) tables
      (front.flatMap TablePart.contents)).1.length =
        (front.flatMap TablePart.contents).length := length_thread ..
  simp only [assembleParts, List.flatMap_append, thread_append,
    TablePart.refill_append front back size, List.foldl_append]

/-- The first part is added before the others. -/
theorem assembleParts_cons (depth tables : Nat) (table : TableAssembly)
    (part : TablePart (List Token)) (rest : List (TablePart (List Token))) :
    r.assembleParts depth tables table (part :: rest) =
      r.assembleParts depth (r.assembleParts depth tables table [part]).2
        (r.assembleParts depth tables table [part]).1 rest :=
  -- The first part is a list by itself.
  r.assembleParts_append depth tables table [part] rest

/-- A header cell is added with its content in bold. -/
theorem assembleParts_header (depth tables : Nat) (table : TableAssembly) (cell : Token) :
    r.assembleParts depth tables table [cell.headerPart] =
      ({ table with
          header := table.header ++ [r.strong (r.renderTokens depth tables cell.children).1]
          alignments := table.alignments ++ [cell.attrs.text? "align"] },
        (r.renderTokens depth tables cell.children).2) := rfl

/-- What a cell of the header gives, whether it has a list of children or not. -/
theorem headerCell_eq (depth tables : Nat) (children? : Option (List Token)) :
    r.headerCell depth tables children? =
      (r.strong (r.renderTokens depth tables (children?.getD [])).1,
        (r.renderTokens depth tables (children?.getD [])).2) := by
  cases children? <;> rfl

/-- The cells of a row of the head are added as header cells. -/
theorem headerCells_eq (depth tables : Nat) (table : TableAssembly) (tokens : List Token) :
    r.headerCells depth tables table tokens =
      r.assembleParts depth tables table ((Token.cellsOf tokens).map Token.headerPart) := by
  induction tokens generalizing tables table with
  | nil => rfl
  | cons token rest ih =>
    obtain ⟨kind, raw?, children?, attrs⟩ := token
    rw [Token.cellsOf_cons]
    -- A cell is added to the header; any other token in a row is passed over.
    by_cases isCell : kind = .tableCell
    · subst isCell
      rw [if_pos rfl, List.map_cons, assembleParts_cons, assembleParts_header, ← ih, headerCells,
        headerCell_eq]
      rfl
    · rw [if_neg isCell, ← ih]
      cases kind <;> first | rfl | exact absurd rfl isCell

/-- The children of a head are added as header cells, those in rows like those outside. -/
theorem assembleHead_eq (depth tables : Nat) (table : TableAssembly) (tokens : List Token) :
    r.assembleHead depth tables table tokens =
      r.assembleParts depth tables table ((Token.headCells tokens).map Token.headerPart) := by
  induction tokens generalizing tables table with
  | nil => rfl
  | cons token rest ih =>
    obtain ⟨kind, raw?, children?, attrs⟩ := token
    rw [Token.headCells_cons]
    -- A row adds its own cells, a cell adds itself, and all other tokens are passed over.
    by_cases isRow : kind = .tableRow
    · subst isRow
      cases children? with
      | none => exact ih ..
      | some cells =>
        rw [if_pos rfl, List.map_append, assembleParts_append, ← headerCells_eq, ← ih, assembleHead]
        rfl
    rw [if_neg isRow]
    by_cases isCell : kind = .tableCell
    · subst isCell
      rw [if_pos rfl, List.map_cons, assembleParts_cons, assembleParts_header, ← ih, assembleHead,
        headerCell_eq]
      rfl
    · rw [if_neg isCell, ← ih]
      -- A token of another kind adds nothing on either side.
      cases kind <;> first | rfl | exact absurd rfl isRow | exact absurd rfl isCell

/-- The cells of a row of the body are rendered one after another. -/
theorem rowCells_eq (depth tables : Nat) (tokens : List Token) :
    r.rowCells depth tables tokens =
      ((Token.cellsOf tokens).zipWith
          (fun cell text => (r.cellText cell.attrs text, cell.attrs.text? "align"))
          (thread (r.renderTokens depth) tables ((Token.cellsOf tokens).map Token.children)).1,
        (thread (r.renderTokens depth) tables ((Token.cellsOf tokens).map Token.children)).2) := by
  induction tokens generalizing tables with
  | nil => rfl
  | cons token rest ih =>
    obtain ⟨kind, raw?, children?, attrs⟩ := token
    rw [Token.cellsOf_cons]
    -- Only cells are rendered, so only they move the count on.
    by_cases isCell : kind = .tableCell
    · subst isCell
      rw [if_pos rfl, List.map_cons, thread_cons]
      cases children? <;> simp only [rowCells, ih] <;> rfl
    · rw [if_neg isCell, ← ih]
      -- A token of another kind adds nothing on either side.
      cases kind <;> first | rfl | exact absurd rfl isCell

/-- A row of the body is added with its cells. -/
theorem assembleParts_row (depth tables : Nat) (table : TableAssembly) (tokens : List Token) :
    r.assembleParts depth tables table [Token.rowPart (Token.cellsOf tokens)] =
      ({ table with
          rows := table.rows ++ [(r.rowCells depth tables tokens).1.map (·.1)]
          alignments :=
            if table.header.isEmpty && table.rows.isEmpty then
              (r.rowCells depth tables tokens).1.map (·.2)
            else table.alignments },
        (r.rowCells depth tables tokens).2) := by
  rw [rowCells_eq]
  simp only [assembleParts, Token.rowPart, TablePart.contents, List.flatMap_singleton,
    List.map_map, Function.comp_def]
  -- The row takes all of the texts, as many as it has cells.
  have size :=
    length_thread (r.renderTokens depth) tables ((Token.cellsOf tokens).map Token.children)
  generalize (thread (r.renderTokens depth) tables
    ((Token.cellsOf tokens).map Token.children)).1 = texts at size
  have whole : texts.take (Token.cellsOf tokens).length = texts :=
    List.take_of_length_le (by simpa using Nat.le_of_eq size)
  simp only [TablePart.refill, List.length_map, whole]
  -- Cells and texts are put together one by one.
  simp [addPart, List.zip, List.zipWith_map_left, List.map_zipWith]

/-- The rows of a body are added one after another. -/
theorem assembleBody_eq (depth tables : Nat) (table : TableAssembly) (tokens : List Token) :
    r.assembleBody depth tables table tokens =
      r.assembleParts depth tables table ((Token.bodyRows tokens).map Token.rowPart) := by
  induction tokens generalizing tables table with
  | nil => rfl
  | cons token rest ih =>
    obtain ⟨kind, raw?, children?, attrs⟩ := token
    rw [Token.bodyRows_cons]
    by_cases isRow : kind = .tableRow
    · subst isRow
      cases children? with
      | none => exact ih ..
      | some cells =>
        rw [assembleBody]
        -- A row without cells renders nothing, so leaving it out loses no number.
        by_cases empty : Token.cellsOf cells = []
        · have without : r.rowCells depth tables cells = ([], tables) := by
            rw [rowCells_eq, empty]
            rfl
          rw [if_neg (fun row => row.2 empty), ← ih, without]
        · have present : (r.rowCells depth tables cells).1 ≠ [] := by
            rw [rowCells_eq]
            intro nothing
            have size := congrArg List.length nothing
            simp [empty] at size
          -- A row with cells is one part.
          rw [if_pos ⟨rfl, empty⟩, List.map_cons, assembleParts_cons]
          simp only [Token.children, Option.getD_some]
          rw [assembleParts_row, ← ih]
    · rw [if_neg (fun row => isRow row.1), ← ih]
      cases kind <;> first | rfl | exact absurd rfl isRow

/-- The sections of a table are added one after another. -/
theorem assembleSections_eq (depth tables : Nat) (table : TableAssembly) (tokens : List Token) :
    r.assembleSections depth tables table tokens =
      r.assembleParts depth tables table (tokens.flatMap Token.sectionParts) := by
  induction tokens generalizing tables table with
  | nil => rfl
  | cons token rest ih =>
    obtain ⟨kind, raw?, children?, attrs⟩ := token
    rw [List.flatMap_cons, assembleParts_append, ← ih]
    -- A head and a body add their parts; a section without a list of children has none.
    by_cases isHead : kind = .tableHead
    · subst isHead
      cases children? with
      | none => rfl
      | some children => rw [assembleSections, assembleHead_eq]; rfl
    by_cases isBody : kind = .tableBody
    · subst isBody
      cases children? with
      | none => rfl
      | some children => rw [assembleSections, assembleBody_eq]; rfl
    · -- All other tokens are passed over.
      cases kind <;> first | rfl | exact absurd rfl isHead | exact absurd rfl isBody

/-- The texts of the lists of tokens inside of a token, and the number of tables after them. -/
def innerTexts (depth tables : Nat) (token : Token) : List String × Nat :=
  thread (r.renderTokens (depth + 1)) (tables + token.ownNumbers) token.outline.contents

/-- A token that is too deep is written as its plain text. -/
theorem renderToken_eq_text {depth : Nat} (deep : r.flattens depth = true) (tables : Nat)
    (token : Token) : r.renderToken depth tables token = (r.text token.plainText, tables) := by
  -- The depth is tested before anything else is looked at.
  obtain ⟨kind, raw?, children?, attrs⟩ := token
  cases children? <;> cases kind <;> cases raw? <;> exact if_pos deep

/-- A token that is not too deep is written along its outline. -/
theorem renderToken_eq_write {depth : Nat} (shallow : r.flattens depth = false) (tables : Nat)
    (token : Token) :
    r.renderToken depth tables token =
      (r.write (tables + 1) token.kind token.attrs
          (token.outline.refill (r.innerTexts depth tables token).1),
        (r.innerTexts depth tables token).2) := by
  obtain ⟨kind, raw?, children?, attrs⟩ := token
  have notDeep : ¬ r.flattens depth = true := by simp [shallow]
  -- A table is assembled from its sections, which are taken along its outline.
  by_cases isTable : kind = .table
  · subst isTable
    cases children? with
    | none => exact if_neg notDeep
    | some sections =>
      refine (if_neg notDeep).trans ?_
      rw [assembleSections_eq]
      rfl
  · -- All other tokens have at most one list of tokens inside.
    cases children? <;> cases raw? <;> cases kind <;>
      first | exact if_neg notDeep | exact absurd rfl isTable

section Limited

variable {r : Renderer} {limit : Nat} (limited : r.depthLimit? = some limit)

include limited

/-- Where no room is left up to the limit a token is written as its plain text. -/
theorem renderToken_of_no_room {depth : Nat} (noRoom : limit - depth = 0) (tables : Nat)
    (token : Token) : r.renderToken depth tables token = (r.text token.plainText, tables) := by
  refine r.renderToken_eq_text ?_ tables token
  simp only [flattens, limited, Option.any_some, decide_eq_true_eq]
  omega

/-- Where room is left up to the limit no tree is too deep. -/
theorem flattens_of_room {depth room : Nat} (roomLeft : limit - depth = room + 1) :
    r.flattens depth = false := by
  simp only [flattens, limited, Option.any_some, decide_eq_false_iff_not]
  omega

end Limited

end Renderer

end Manuscript
