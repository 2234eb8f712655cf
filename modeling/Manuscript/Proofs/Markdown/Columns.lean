import Manuscript.Proofs.Markdown.Depth
import Manuscript.Proofs.Markdown.Layout
import Manuscript.Proofs.Render.Assembly

/-!
The columns of a table: what is assembled from the token of a table is the table of the document
with the content of every cell rendered, row by row and column by column.
-/

namespace Manuscript

namespace TablePart

variable {α β : Type}

/-- Parts whose contents are replaced by what these are changed to are changed parts. -/
theorem refill_contents (change : α → β) (parts : List (TablePart α)) :
    refill parts ((parts.flatMap contents).map change) = parts.map (map change) := by
  induction parts with
  | nil => rfl
  | cons part rest ih =>
    cases part with
    | header attrs content => simp [contents, refill, map, ih]
    | row cells =>
      -- The row takes as many of the contents as it has cells, and leaves those of the others.
      have size : ((cells.map (·.2)).map change).length = cells.length := by simp
      have own : ((cells.map (·.2)).map change ++ (rest.flatMap contents).map change).take
          cells.length = (cells.map (·.2)).map change := List.take_left' size
      have others : ((cells.map (·.2)).map change ++ (rest.flatMap contents).map change).drop
          cells.length = (rest.flatMap contents).map change := List.drop_left' size
      rw [List.flatMap_cons, List.map_append, List.map_cons, contents, refill, own, others, ih, map]
      simp [List.zip_map', List.map_map]

end TablePart

/-- A table with a header has a column for each of the header cells. -/
theorem TableAssembly.columnCount_of_header {table : TableAssembly} (headed : table.header ≠ []) :
    table.columnCount = table.header.length := by
  -- The other cases are tables without a header.
  unfold columnCount
  split
  · rename_i none _
    exact absurd none headed
  · rename_i none _
    exact absurd none headed
  · rfl

namespace Renderer

variable (r : Renderer)

/-- Header cells are added to the header, and say how their columns are aligned. -/
theorem foldl_addPart_headers (cells : List (Attrs × String)) (table : TableAssembly) :
    (cells.map fun cell => TablePart.header cell.1 cell.2).foldl r.addPart table =
      { table with
        header := table.header ++ cells.map fun cell => r.strong cell.2
        alignments := table.alignments ++ cells.map fun cell => cell.1.text? "align" } := by
  induction cells generalizing table with
  | nil => simp
  | cons cell rest ih =>
    rw [List.map_cons, List.foldl_cons, ih]
    -- A header cell adds its text, in bold, and its hint.
    simp [addPart]

/-- Below a header, rows are added to the body and say nothing about columns. -/
theorem foldl_addPart_rows (rows : List (List (Attrs × String))) {table : TableAssembly}
    (headed : table.header ≠ []) :
    (rows.map TablePart.row).foldl r.addPart table =
      { table with rows := table.rows ++ rows.map r.cellTexts } := by
  induction rows generalizing table with
  | nil => simp
  | cons row rest ih =>
    rw [List.map_cons, List.foldl_cons, ih]
    · -- With a header there, a row gives no hints.
      simp [addPart, headed, cellTexts]
    · exact headed

/-- The cells of header cells and rows that reach no table are rendered each by itself. -/
theorem assembleParts_of_kept {depth tables : Nat} {parts : List (TablePart (List Token))}
    (kept : ∀ tokens ∈ parts.flatMap TablePart.contents,
      (r.renderTokens depth tables tokens).2 = tables) (table : TableAssembly) :
    r.assembleParts depth tables table parts =
      ((parts.map (TablePart.map fun tokens => (r.renderTokens depth tables tokens).1)).foldl
        r.addPart table, tables) := by
  unfold assembleParts
  -- No content counts a table, so that each is rendered with the same count.
  rw [thread_of_kept kept]
  simp only [TablePart.refill_contents]

end Renderer

namespace Markdown

open Manuscript.Token

namespace Node

variable {place : Place} {node : Node} {token : Token}

/-- The token of running text is no table. -/
theorem Form.kind_ne_table (form : node.Form place token) (isInline : node.isInline = true) :
    token.kind ≠ .table := by
  -- The form says of what kind the token is, and only a block can be a table.
  cases form with
  | flattened node deep => cases node <;> exact nofun
  | literal isLiteral raw attrs =>
    rintro rfl
    cases isLiteral
  | mark isMark =>
    rintro rfl
    cases isMark
  | around shallow wraps deeper attrs =>
    rintro rfl
    cases node with
    | block held => cases isInline
    | item blocks => cases isInline
    -- No inline content is made into a table.
    | inline content => simp [WrapsIn] at wraps
  | table shallow alignments header rows => cases isInline

/-- Below the token of running text no table is reached. -/
theorem tablesWithin_of_isInline (room : Nat) (place : Place) (node : Node)
    (isInline : node.isInline = true) : (node.token place).tablesWithin room = [] := by
  -- The induction goes through the levels; what is inside of running text is running text.
  induction room generalizing place node with
  | zero => rfl
  | succ room ih =>
    have form := form_token place node
    rw [tablesWithin, if_neg (form.kind_ne_table isInline), List.nil_append,
      List.flatMap_eq_nil_iff]
    intro below member
    by_cases shallow : place.depth < maxDepth
    · obtain ⟨part, inside, within, -, -, rfl⟩ := form.exists_of_mem_inner shallow member
      exact ih within part (isInline_of_mem_inner isInline inside)
    · -- What is kept of running text at the depth limit has nothing below it.
      have childless : (node.token place).children = [] := by
        rw [token_of_deep (Nat.not_lt.mp shallow), children_flattened, if_pos isInline]
      rw [inner_of_childless childless] at member
      cases member

end Node

section Cells

variable {depth : Nat} {isHead : Bool}

/-- The token of a cell says how its column is aligned, if anything is said of that. -/
theorem align_cellToken (alignment? : Option Alignment) (content : List Inline) :
    (cellToken depth isHead alignment? content).attrs.text? "align" =
      alignment?.bind Alignment.name? := by
  unfold cellToken
  -- The attribute is there only where the column has a name for its alignment.
  cases alignment?.bind Alignment.name? with
  | none => rfl
  | some name => simp [Token.withAttr, Attrs.text?, Attrs.get?_insert]

/-- What is made of the children of each cell is made of the tokens of its content. -/
theorem map_children_cellTokens {β : Type} (f : List Token → β) (alignments : List Alignment)
    (cells : List (List Inline)) :
    (cellTokens depth isHead alignments cells).map (fun cell => f cell.children) =
      cells.map fun content => f (inlineTokens depth content) := by
  -- Each cell takes an alignment from the front, which does not show in its children.
  induction cells generalizing alignments with
  | nil => rfl
  | cons cell rest ih => simp only [cellTokens, List.map_cons, children_cellToken, ih]

/-- The cells of a row say how the columns are aligned. -/
theorem map_align_cellTokens {alignments : List Alignment} {cells : List (List Inline)}
    (aligned : alignments.length = cells.length) :
    (cellTokens depth isHead alignments cells).map (fun cell => cell.attrs.text? "align") =
      alignments.map Alignment.name? := by
  -- Cells and alignments are used up together, from the first column on.
  induction cells generalizing alignments with
  | nil => simp [cellTokens, List.eq_nil_of_length_eq_zero aligned]
  | cons cell rest ih =>
    cases alignments with
    | nil => cases aligned
    | cons alignment others =>
      simp only [cellTokens, List.map_cons, align_cellToken, List.tail_cons, List.head?_cons,
        Option.bind_some, ih (Nat.succ.inj aligned)]

/-- The cells of a row of the body are not strong. -/
theorem cellTexts_cellTokens (r : Renderer) (text : List Token → String)
    (alignments : List Alignment) (cells : List (List Inline)) :
    r.cellTexts ((cellTokens depth false alignments cells).map fun cell =>
        (cell.attrs, text cell.children)) =
      cells.map fun content => text (inlineTokens depth content) := by
  rw [← map_children_cellTokens text alignments cells, Renderer.cellTexts, List.map_map]
  refine List.map_congr_left fun cell member => ?_
  -- Each of them says that it is no cell of the header.
  have other : cell.attrs.flag "head" = false := by
    simp [Attrs.flag, (isCell_of_mem_cellTokens member).2]
  simp [Renderer.cellText, other]

end Cells

/-- The rows of a table are those of its body, when none of them is without cells. -/
theorem bodyRows_rowTokens {depth : Nat} {alignments : List Alignment}
    {rows : List (List (List Inline))} (filled : ∀ row ∈ rows, row ≠ []) :
    bodyRows (rows.map (rowToken depth alignments)) =
      rows.map (cellTokens depth false alignments) := by
  induction rows with
  | nil => rfl
  | cons row rest ih =>
    obtain ⟨here, others⟩ := List.forall_mem_cons.mp filled
    have isRow := isRow_rowToken depth alignments row
    -- A row that is not empty has cells, and is therefore a row for what assembles tables.
    have cells : cellTokens depth false alignments row ≠ [] := by
      cases row with
      | nil => exact absurd rfl here
      | cons cell rest => exact List.cons_ne_nil _ _
    rw [List.map_cons, bodyRows_cons, isRow.cellsOf_children, if_pos ⟨rfl, cells⟩, ih others]
    rfl

/-- A table whose cells are each rendered by itself, at a depth and behind some tables. -/
structure Assembles (r : Renderer) (depth tables place : Nat) (alignments : List Alignment)
    (head : List (List Inline)) (body : List (List (List Inline))) (table : TableAssembly) :
    Prop where
  /-- Each header cell is strong. -/
  header : table.header = head.map fun cell =>
    r.strong (r.renderTokens depth tables (inlineTokens (place + 4) cell)).1
  /-- Each row of the document is a row, whose cells are not strong. -/
  rows : table.rows = body.map fun row => row.map fun cell =>
    (r.renderTokens depth tables (inlineTokens (place + 4) cell)).1
  /-- Each column is aligned as the document says, if it says anything. -/
  alignments : table.alignments = alignments.map Alignment.name?
  /-- There is a column for each header cell. -/
  columns : table.columnCount = head.length
  /-- The column specification has as many columns. -/
  specification : table.alignmentSpec = "|" ++ String.join (List.replicate head.length "l|")

/-- The parts of a table whose rows are not empty, each cell rendered by itself. -/
theorem sectionParts_tableToken {α : Type} (f : List Token → α) {place : Nat}
    {alignments : List Alignment} {head : List (List Inline)} {body : List (List (List Inline))}
    (filled : ∀ row ∈ body, row ≠ []) :
    ((tableToken place alignments head body).children.flatMap sectionParts).map
        (TablePart.map f) =
      ((cellTokens (place + 4) true alignments head).map fun cell =>
          TablePart.header cell.attrs (f cell.children)) ++
        body.map fun row => TablePart.row
          ((cellTokens (place + 4) false alignments row).map fun cell =>
            (cell.attrs, f cell.children)) := by
  -- The table is a head with cells in front of a body with rows.
  have isHead : ∀ cell ∈ (headToken (place + 4) alignments head).children,
      cell.kind = .tableCell := fun cell member => kind_of_mem_cellTokens member
  -- Only rows with cells are rows of a body, and these all have some.
  have rows : bodyRows (bodyToken (place + 4) alignments body).children =
      body.map (cellTokens (place + 4) false alignments) := bodyRows_rowTokens filled
  rw [sectionParts_of_table (children_tableToken ..) ⟨rfl, isHead⟩ rfl, rows]
  simp only [List.map_append, List.map_map, Function.comp_def, headerPart, rowPart, TablePart.map]
  rfl

/-- No table is reached in the cells of a table. -/
theorem renderTokens_kept {r : Renderer} {limit : Nat} (limited : r.depthLimit? = some limit)
    (depth tables : Nat) {place : Nat} {alignments : List Alignment} {head : List (List Inline)}
    {body : List (List (List Inline))} {tokens : List Token}
    (member : tokens ∈ ((tableToken place alignments head body).children.flatMap
      sectionParts).flatMap TablePart.contents) :
    (r.renderTokens depth tables tokens).2 = tables := by
  have nothing : tokens.flatMap (tablesWithin (limit - depth)) = [] := by
    rw [List.flatMap_eq_nil_iff]
    intro token inside
    -- What stands in a cell is the token of running text.
    have within : token ∈ (tableToken place alignments head body).inner :=
      List.mem_flatten.mpr ⟨tokens, member, inside⟩
    obtain ⟨cell, -, content, -, rfl⟩ := exists_of_mem_inner_tableToken within
    exact Node.tablesWithin_of_isInline _ { depth := place + 4 } (.inline content) rfl
  rw [r.renderTokens_count limited rfl, nothing]
  rfl

/-- What is assembled of the token of a table, where each row has as many cells as the header. -/
theorem assembles_tableToken {r : Renderer} {limit : Nat} (limited : r.depthLimit? = some limit)
    (depth tables : Nat) {place : Nat} {alignments : List Alignment} {head : List (List Inline)}
    {body : List (List (List Inline))} (someColumn : head ≠ [])
    (aligned : alignments.length = head.length) (full : ∀ row ∈ body, row.length = head.length) :
    ∃ table, r.assembleSections depth tables {} (tableToken place alignments head body).children =
        (table, tables) ∧
      Assembles r depth tables place alignments head body table := by
  let text (tokens : List Token) : String := (r.renderTokens depth tables tokens).1
  let rendered (isHead : Bool) (cells : List (List Inline)) : List (Attrs × String) :=
    (cellTokens (place + 4) isHead alignments cells).map fun cell =>
      (cell.attrs, text cell.children)
  -- A row is as wide as the header, which has a column.
  have filled : ∀ row ∈ body, row ≠ [] := by
    rintro row member rfl
    exact someColumn (List.eq_nil_of_length_eq_zero (full [] member).symm)
  -- With their contents rendered, the parts are a header cell by cell and then the rows.
  have parts : ((tableToken place alignments head body).children.flatMap sectionParts).map
      (TablePart.map text) =
        ((rendered true head).map fun cell => TablePart.header cell.1 cell.2) ++
          (body.map (rendered false)).map TablePart.row := by
    rw [sectionParts_tableToken text filled]
    simp only [rendered, List.map_map, Function.comp_def]
  have strong : ((rendered true head).map fun cell => r.strong cell.2) =
      head.map fun cell => r.strong (text (inlineTokens (place + 4) cell)) :=
    List.map_map.trans
      (map_children_cellTokens (fun tokens => r.strong (text tokens)) alignments head)
  have plain : (body.map (rendered false)).map r.cellTexts =
      body.map fun row => row.map fun cell => text (inlineTokens (place + 4) cell) := by
    rw [List.map_map]
    exact List.map_congr_left fun row _ => cellTexts_cellTokens r text alignments row
  -- The alignments come from the header alone.
  have columns : ((rendered true head).map fun cell => cell.1.text? "align") =
      alignments.map Alignment.name? := List.map_map.trans (map_align_cellTokens aligned)
  -- So this is what the parts add up to.
  let table : TableAssembly :=
    { header := (rendered true head).map fun cell => r.strong cell.2
      rows := (body.map (rendered false)).map r.cellTexts
      alignments := (rendered true head).map fun cell => cell.1.text? "align" }
  have headed : table.header ≠ [] := by
    simpa only [table, strong, ne_eq, List.map_eq_nil_iff] using someColumn
  have assembled : r.assembleSections depth tables {}
      (tableToken place alignments head body).children = (table, tables) := by
    -- The header cells come first, so that the rows say nothing more about the columns.
    rw [r.assembleSections_eq, r.assembleParts_of_kept fun tokens member =>
      renderTokens_kept limited depth tables member, parts, List.foldl_append,
      r.foldl_addPart_headers, r.foldl_addPart_rows]
    · rfl
    · exact headed
  -- With a header it is the header that tells the number of columns.
  have count : table.columnCount = head.length := by
    rw [TableAssembly.columnCount_of_header headed]
    simp only [table, strong, List.length_map]
  have specification :
      table.alignmentSpec = "|" ++ String.join (List.replicate head.length "l|") := by
    rw [TableAssembly.alignmentSpec, count]
  exact ⟨table, assembled, strong, plain, columns, count, specification⟩

/--
The token of a table above the depth limit is assembled to the table of the document, at every
depth of rendering: header cells, rows and columns stand where they stood, each cell is rendered
by itself, and the number of tables stays.
-/
theorem assembleTable_blockToken (templates : TemplateSet) (options : RenderOptions)
    (depth tables : Nat) (place : Place) (alignments : List Alignment)
    (head : List (List Inline)) (body : List (List (List Inline)))
    (shallow : place.depth < maxDepth) (someColumn : head ≠ [])
    (aligned : alignments.length = head.length) (full : ∀ row ∈ body, row.length = head.length) :
    let r := Renderer.ofTemplates templates options
    let token := blockToken place (.table alignments head body)
    (∃ table, r.assembleTable tables token = (table, tables) ∧
      Assembles r 0 tables place.depth alignments head body table) ∧
    ∃ table, r.assembleSections depth tables {} token.children = (table, tables) ∧
      Assembles r depth tables place.depth alignments head body table := by
  intro r token
  -- Above the limit a table is kept as a tree.
  have isTable : token = tableToken place.depth alignments head body :=
    (blockToken.eq_def ..).trans (if_neg (Nat.not_le.mpr shallow))
  have limited : r.depthLimit? = some maxDepth := rfl
  rw [isTable]
  -- A table is put together in the same way by itself and inside of a document.
  exact ⟨assembles_tableToken limited 0 tables someColumn aligned full,
    assembles_tableToken limited depth tables someColumn aligned full⟩

/-- A table of two columns and one row, as deep as a table can stand. -/
theorem assembleTable_blockToken_lastLevel :
    let place : Place := { depth := maxDepth - 1 }
    let alignments : List Alignment := [.left, .unspecified]
    let head : List (List Inline) := [[.text "a"], [.emphasis [.text "b"]]]
    let body : List (List (List Inline)) := [[[.code "c"], []]]
    let r := Renderer.ofTemplates TemplateSet.builtin {}
    let token := blockToken place (.table alignments head body)
    (place.depth < maxDepth ∧ head ≠ [] ∧ alignments.length = head.length ∧
      ∀ row ∈ body, row.length = head.length) ∧
    (∃ table, r.assembleTable 0 token = (table, 0) ∧
      Assembles r 0 0 place.depth alignments head body table) ∧
    ∃ table, r.assembleSections 1 0 {} token.children = (table, 0) ∧
      Assembles r 1 0 place.depth alignments head body table := by
  -- All that is asked of the table can be seen from it.
  intro place alignments head body r token
  have shallow : place.depth < maxDepth := by decide
  have full : ∀ row ∈ body, row.length = head.length := by simp [body, head]
  exact ⟨⟨shallow, List.cons_ne_nil _ _, rfl, full⟩,
    assembleTable_blockToken TemplateSet.builtin {} 1 0 place alignments head body shallow
      (List.cons_ne_nil _ _) rfl full⟩

end Markdown

end Manuscript
