import Manuscript.Proofs.Latex.Tabular
import Manuscript.Proofs.Render.Assembly
import Manuscript.Proofs.Render.Descent
import Manuscript.Proofs.Template.Builtin
import Manuscript.Proofs.Template.Substitution

/-!
The rows of tables whose cells hold text, inline code, emphasis and line ends of the source. Nothing
that is written for these imitates the end of a cell or of a row, so that the cells are read back from
the lines of the table.
-/

namespace Manuscript

/-- A token of running text that may stand in a cell, with text of its own where text is escaped. -/
structure Token.IsInline (token : Token) : Prop where
  /-- The token is text, inline code, emphasis or a line end. -/
  kind : token.kind ∈ [.text, .codespan, .emphasis, .strong, .softbreak]
  /-- Only text and inline code hold text. -/
  raw : token.raw?.isSome → token.kind = .text ∨ token.kind = .codespan

/-- An inline token is no part of a table. -/
theorem Token.IsInline.inTable {token : Token} (inline : token.IsInline) :
    token.kind.inTable = false := by
  have each : ∀ kind ∈ [.text, .codespan, .emphasis, .strong, .softbreak],
      TokenKind.inTable kind = false := by decide
  exact each token.kind inline.kind

/--
A cell as it is written without a configuration and with escaped text around trees of inline tokens,
in bold when its attributes mark it as a header cell.
-/
def IsInlineCell (cell : String) : Prop :=
  ∃ (options : RenderOptions) (attrs : Attrs) (depth tables : Nat) (tokens : List Token),
    options.escape = true ∧ (∀ token ∈ Token.preorderAll tokens, token.IsInline) ∧
      cell = (Renderer.ofTemplates .builtin options).cellText attrs
        ((Renderer.ofTemplates .builtin options).renderTokens depth tables tokens).1

/-- The templates of inline code and emphasis put their text into the group of a command. -/
theorem segments_builtin_command {construct : Construct}
    (wraps : construct ∈ [.codespan, .emphasis, .strong]) :
    ∃ command, (Template.builtin construct).segments =
      [.literal ('\\' :: command), .slot .text, .literal ['\x7d']] ∧
        IsCellText ('\\' :: command) := by
  simp only [List.mem_cons, List.not_mem_nil, or_false] at wraps
  -- The command is the only thing in which the three of them differ.
  rcases wraps with rfl | rfl | rfl
  · exact ⟨"texttt\x7b".toList, Template.segments_builtin rfl (by decide +kernel),
      .escaped (by decide) (.of_all (by decide))⟩
  · exact ⟨"emph\x7b".toList, Template.segments_builtin rfl (by decide +kernel),
      .escaped (by decide) (.of_all (by decide))⟩
  · exact ⟨"textbf\x7b".toList, Template.segments_builtin rfl (by decide +kernel),
      .escaped (by decide) (.of_all (by decide))⟩

namespace Renderer

variable {options : RenderOptions}

/-- Inline code and emphasis are written as text for a cell around such text. -/
theorem isCellText_fillText {construct : Construct}
    (wraps : construct ∈ [.codespan, .emphasis, .strong]) {content : String}
    (clear : IsCellText content.toList) :
    IsCellText ((ofTemplates .builtin options).fillText construct content).toList := by
  obtain ⟨command, segments, clearCommand⟩ := segments_builtin_command wraps
  -- The mark in front belongs to the command, and the brace behind is no mark of a cell.
  have written : ((ofTemplates .builtin options).fillText construct content).toList =
      '\\' :: command ++ (content.toList ++ ['\x7d']) := by
    show ((Template.builtin construct).render _).toList = _
    rw [toList_render, segments]
    simp [filledText, Template.fillSegment, Template.valueOf]
  rw [written]
  exact clearCommand.append (clear.append (.of_all (by decide)))

/-- A line end of the source is written as text for a cell. -/
theorem isCellText_softbreak : IsCellText (ofTemplates .builtin options).softbreak.toList := by
  -- A line break in a cell is a blank, and no mark of a table.
  have segments : (Template.builtin .softbreak).segments = [.literal [' ']] :=
    Template.segments_builtin rfl (by decide +kernel)
  show IsCellText ((Template.builtin .softbreak).render _).toList
  rw [toList_render, segments]
  exact .of_all (by decide)

/-- A cell around text for a cell is text for a cell, in bold or not. -/
theorem isCellText_cellText (attrs : Attrs) {content : String}
    (clear : IsCellText content.toList) :
    IsCellText ((ofTemplates .builtin options).cellText attrs content).toList := by
  unfold cellText
  -- A head cell is bold, and bold text has no marks of its own.
  split
  · exact isCellText_fillText (by decide) clear
  · exact clear

/-- The table of parts with text for cells is clean when it has no row without cells. -/
theorem isClean_foldl_addPart {parts : List (TablePart String)}
    (clear : ∀ part ∈ parts, ∀ content ∈ part.contents, IsCellText content.toList)
    (filled : ∀ cells, .row cells ∈ parts → cells ≠ []) :
    (parts.foldl (ofTemplates .builtin options).addPart {}).IsClean where
  header := by
    rw [header_foldl_addPart]
    exact forall_mem_headerTexts clear fun _ => isCellText_fillText (by decide)
  -- A row is kept only if it has cells.
  filled := by
    rw [rows_foldl_addPart]
    exact ne_nil_of_mem_rowTexts filled
  rows := by
    rw [rows_foldl_addPart]
    exact forall_mem_rowTexts clear fun attrs _ => isCellText_cellText attrs

variable (escapes : options.escape = true)

include escapes

/-- Text is written as text for a cell, whatever it is. -/
theorem isCellText_text (text : String) :
    IsCellText ((ofTemplates .builtin options).text text).toList := by
  -- The template of text adds nothing to it.
  have segments : (Template.builtin .text).segments = [.slot .text] :=
    Template.segments_builtin rfl (by decide +kernel)
  have written : ((ofTemplates .builtin options).text text).toList = (escapeText text).toList := by
    show ((Template.builtin .text).render _).toList = _
    rw [toList_render, segments]
    simp [filledText, Template.fillSegment, Template.valueOf, escaped, ofTemplates, escapes]
  rw [written]
  exact isCellText_escapeText text

/-- What is written for an inline token around text for a cell is text for a cell. -/
theorem isCellText_construct {token : Token} (inline : token.IsInline) {content : String}
    (clear : token.kind ≠ .text → token.kind ≠ .codespan → IsCellText content.toList) :
    IsCellText
      ((ofTemplates .builtin options).construct token.kind token.attrs content).toList := by
  obtain ⟨kind, raw?, children?, attrs⟩ := token
  have kinds := inline.kind
  simp only [List.mem_cons, List.not_mem_nil, or_false] at kinds clear ⊢
  -- Text and inline code escape what they hold, emphasis keeps it, and a line end holds nothing.
  rcases kinds with rfl | rfl | rfl | rfl | rfl
  · exact isCellText_text escapes content
  · have code := isCellText_escapeText content
    refine isCellText_fillText (by decide) ?_
    simpa [escaped, ofTemplates, escapes] using code
  · exact isCellText_fillText (by decide) (clear nofun nofun)
  · exact isCellText_fillText (by decide) (clear nofun nofun)
  · exact isCellText_softbreak

/-- Text for a cell goes with trees of inline tokens. -/
theorem handsOn_isCellText (first last : Nat) :
    (ofTemplates .builtin options).HandsOn Token.IsInline first last
      fun _ _ text => IsCellText text.toList where
  nothing _ := .nil
  append front back := by
    rw [String.toList_append]
    exact front.append back
  flat token := isCellText_text escapes token.plainText
  write {depth _ tables token} inline _ _ each := by
    have own := inline token (Token.mem_preorder_self token)
    generalize (innerTexts _ depth tables token).1 = texts at each ⊢
    rcases token.outline_cases with ⟨isTable, -⟩ | ⟨inTable, -⟩ |
      ⟨-, ⟨raw, outline⟩ | outline⟩
    · -- Inline tokens are no tables and no parts of these.
      exact absurd own.inTable (by simp [isTable, TokenKind.inTable])
    · exact absurd own.inTable (by simp [inTable])
    · -- A token with a text of its own escapes it.
      have escaped := own.raw (by simp [Token.raw?_of_outline outline])
      rw [outline]
      exact isCellText_construct escapes own fun notText notCode =>
        absurd escaped (not_or.mpr ⟨notText, notCode⟩)
    · -- Any other token is written around the text of its children.
      rw [outline] at each ⊢
      cases each with
      | cons clear _ => exact isCellText_construct escapes own fun _ _ => clear

/-- What is rendered of trees of inline tokens is text for a cell. -/
theorem isCellText_renderTokens (depth tables : Nat) {tokens : List Token}
    (inline : ∀ token ∈ Token.preorderAll tokens, token.IsInline) :
    IsCellText ((ofTemplates .builtin options).renderTokens depth tables tokens).1.toList :=
  (handsOn_isCellText escapes tables _).renderTokens rfl rfl inline (Nat.le_refl _) (Nat.le_refl _)

/-- The table that is assembled of sections is clean when its cells hold trees of inline tokens. -/
theorem isClean_assembleSections (depth tables : Nat) {sections : List Token}
    (inline : ∀ tokens ∈ (sections.flatMap Token.sectionParts).flatMap TablePart.contents,
      ∀ token ∈ Token.preorderAll tokens, token.IsInline) :
    ((ofTemplates .builtin options).assembleSections depth tables {} sections).1.IsClean := by
  have texts : ∀ text ∈ (thread ((ofTemplates .builtin options).renderTokens depth) tables
      ((sections.flatMap Token.sectionParts).flatMap TablePart.contents)).1,
        IsCellText text.toList := by
    refine forall_mem_thread (fun tokens member count => ?_) tables
    exact isCellText_renderTokens escapes depth count (inline tokens member)
  rw [assembleSections_eq]
  refine isClean_foldl_addPart (fun part member content inside => ?_) fun cells member => ?_
  · exact texts content (TablePart.mem_of_mem_refill member inside)
  · -- Rows without cells are left out of the parts, and there is a text for each cell.
    refine TablePart.row_refill_ne_nil (length_thread ..) (fun cells member => ?_) member
    obtain ⟨part, -, within⟩ := List.mem_flatMap.mp member
    exact Token.ne_nil_of_row_mem_sectionParts within

/--
The header and the rows that are assembled for a table are read back from its lines when its cells
hold trees of inline tokens.
-/
theorem readRows_assembleSections (depth tables : Nat) {sections : List Token}
    (inline : ∀ tokens ∈ (sections.flatMap Token.sectionParts).flatMap TablePart.contents,
      ∀ token ∈ Token.preorderAll tokens, token.IsInline) :
    let table := ((ofTemplates .builtin options).assembleSections depth tables {} sections).1
    Tabular.readRows table.headerLine = (if table.header = [] then [] else [table.header]) ∧
      Tabular.readRows table.bodyLines = table.rows :=
  -- What inline cells are written as has no marks but those of the table.
  have clean := isClean_assembleSections escapes depth tables inline
  ⟨clean.readRows_headerLine, clean.readRows_bodyLines⟩

end Renderer

/-- A cell around trees of inline tokens ends no row and no cell. -/
theorem IsInlineCell.isCellText {cell : String} (inline : IsInlineCell cell) :
    IsCellText cell.toList := by
  obtain ⟨options, attrs, depth, tables, tokens, escapes, each, rfl⟩ := inline
  exact Renderer.isCellText_cellText attrs
    (Renderer.isCellText_renderTokens escapes depth tables each)

namespace TableAssembly

/--
The header and the rows of a table are read back from its lines when its cells are written around
trees of inline tokens and no row is empty: the lines are cut at double backslashes and at ampersands
that no backslash stands in front of, and what stands around these is dropped.
-/
theorem readRows_headerLine_bodyLines (table : TableAssembly)
    (header : ∀ cell ∈ table.header, IsInlineCell cell)
    (rows : ∀ row ∈ table.rows, row ≠ [] ∧ ∀ cell ∈ row, IsInlineCell cell) :
    Tabular.readRows table.headerLine = (if table.header = [] then [] else [table.header]) ∧
      Tabular.readRows table.bodyLines = table.rows := by
  -- The cells are clean one by one, and so is the table.
  have clean : table.IsClean :=
    { header := fun cell member => (header cell member).isCellText
      filled := fun row member => (rows row member).1
      rows := fun row member cell inside => ((rows row member).2 cell inside).isCellText }
  exact ⟨clean.readRows_headerLine, clean.readRows_bodyLines⟩

/-- Cells that are empty or hold marks, line feeds and runs of blanks are told apart. -/
theorem readRows_headerLine_bodyLines_marks :
    let cell := ((Renderer.ofTemplates .builtin {}).renderTokens 0 0
      [.ofText "  a & b \\\\\n        &"]).1
    let table : TableAssembly := { header := [cell, ""], rows := [[""], [cell, "", cell]] }
    (∀ cell ∈ table.header, IsInlineCell cell) ∧
      (∀ row ∈ table.rows, row ≠ [] ∧ ∀ cell ∈ row, IsInlineCell cell) ∧
        Tabular.readRows table.headerLine = [[cell, ""]] ∧
          Tabular.readRows table.bodyLines = [[""], [cell, "", cell]] := by
  intro cell table
  -- Such a text is no table and escapes its marks.
  have marks : IsInlineCell cell := by
    refine ⟨{}, .empty, 0, 0, _, rfl, ?_, rfl⟩
    exact List.forall_mem_singleton.mpr ⟨by decide, fun _ => .inl rfl⟩
  -- A cell without tokens is written as nothing.
  have empty : IsInlineCell "" := ⟨{}, .empty, 0, 0, [], rfl, nofun, rfl⟩
  have header : ∀ cell ∈ table.header, IsInlineCell cell := by simp [table, marks, empty]
  have rows : ∀ row ∈ table.rows, row ≠ [] ∧ ∀ cell ∈ row, IsInlineCell cell := by
    simp [table, marks, empty]
  exact ⟨header, rows, readRows_headerLine_bodyLines table header rows⟩

end TableAssembly

end Manuscript
