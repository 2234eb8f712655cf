import Manuscript.Proofs.Render.Assembly
import Manuscript.Proofs.Render.Comparison
import Manuscript.Proofs.Text.Telling

/-!
Templates that show what was rendered: they write all contents and the numbers of tables between
brackets. Deleting unknown tokens changes nothing under any templates just when nothing is
disturbed.
-/

namespace Manuscript

/-- The places of a template that shows the content of its construct. -/
def Construct.shown : Construct → List Placeholder
  | .image => [.alt]
  | .blockCode | .blockCodeWithLang => [.code]
  | .table => [.counter, .header, .body]
  | .linebreak | .softbreak | .thematicBreak | .blankLine => []
  | _ => [.text]

/-- Templates that write the content of every construct between brackets, in every place once. -/
def TemplateSet.probe : TemplateSet :=
  ⟨fun construct => ⟨.literal ['['] :: construct.shown.map .slot ++ [.literal [']']]⟩⟩

/-- A renderer that shows what was rendered. -/
def Renderer.probe : Renderer := .ofTemplates .probe { escape := false }

/-- What is shown stands between brackets. -/
theorem fill_probe (construct : Construct) (values : Values) :
    Renderer.probe.fill construct values =
      "[" ++ String.join (construct.shown.map (Template.valueOf values)) ++ "]" := by
  simp [Renderer.probe, Renderer.ofTemplates, TemplateSet.fill, TemplateSet.probe, Template.render,
    Template.fillSegment, Function.comp_def, String.append_assoc]

/-- A construct of which one value is shown shows this between brackets. -/
theorem fill_probe_single {construct : Construct} {placeholder : Placeholder} {values : Values}
    {content : String} (single : construct.shown = [placeholder])
    (value : Template.valueOf values placeholder = content) :
    Renderer.probe.fill construct values = "[" ++ content ++ "]" := by
  -- The template writes nothing else than the one slot in brackets.
  rw [fill_probe, single, ← value]
  simp

/-- Strong content is shown between brackets. -/
theorem strong_probe (content : String) :
    Renderer.probe.strong content = "[" ++ content ++ "]" := fill_probe_single rfl rfl

/-- Text is shown between brackets as it is. -/
theorem text_probe (text : String) : Renderer.probe.text text = "[" ++ text ++ "]" :=
  fill_probe_single rfl rfl

/-- A table shows its number, its header and its body. -/
theorem tableBlock_probe (number : Nat) (table : TableAssembly) :
    Renderer.probe.tableBlock number table =
      "[" ++ (toString number ++ table.headerLine ++ table.bodyLines) ++ "]" := by
  rw [Renderer.tableBlock, fill_probe]
  -- The alignments are left out: they would tell more than what the cells hold.
  show "[" ++ String.join [toString number, table.headerLine, table.bodyLines] ++ "]" = _
  simp [String.append_assoc]

/-- A text does not end with a line feed. -/
def NoLineEnd (text : String) : Prop := text.toList.getLast? ≠ some '\n'

/-- The empty text does not end with a line feed. -/
theorem noLineEnd_empty : NoLineEnd "" := by simp [NoLineEnd]

/-- Such texts stay as they are where the line feed at the end is dropped. -/
theorem withoutLastNewline_of_noLineEnd {text : String} (noLineEnd : NoLineEnd text) :
    Renderer.withoutLastNewline text = text := by
  unfold Renderer.withoutLastNewline
  -- Only a line feed at the end could be dropped.
  split
  case h_1 rest reversed =>
    refine absurd ?_ noLineEnd
    rw [← List.head?_reverse, reversed]
    rfl
  case h_2 => rfl

/-- Texts one after another end like the last of them, if that is not empty. -/
theorem NoLineEnd.append {front back : String} (first : NoLineEnd front) (last : NoLineEnd back) :
    NoLineEnd (front ++ back) := by
  unfold NoLineEnd at *
  rw [String.toList_append, List.getLast?_append]
  -- An empty last text leaves the end to the text before it.
  cases final : back.toList.getLast? with
  | none => simpa using first
  | some c => simpa [final] using last

/-- What stands between brackets does not end with a line feed. -/
theorem noLineEnd_bracket (text : String) : NoLineEnd (text ++ "]") := by
  simp [NoLineEnd]

/-- What a construct with content shows: the content, behind what does not depend on it. -/
theorem construct_probe {kind : TokenKind} (known : kind.isUnknown = false)
    (written : kind.dropsContent = false) (outside : kind.inTable = false) (attrs : Attrs) :
    ∃ front, ∀ content, NoLineEnd content →
      Renderer.probe.construct kind attrs content = front ++ content ++ "]" := by
  cases kind with
  | image =>
    -- The note on the format of the image stands in front of it.
    let note := Renderer.formatNote (resolveImagePath [] ((attrs.text? "url").getD ""))
    refine ⟨note ++ "[", fun content _ => ?_⟩
    rw [Renderer.construct, Renderer.image, fill_probe_single rfl rfl]
    simp only [String.append_assoc]
    rfl
  -- A listing loses a line feed at its end, which the content does not have.
  | blockCode =>
    refine ⟨"[", fun content noLineEnd => ?_⟩
    rw [Renderer.construct, Renderer.blockCode, withoutLastNewline_of_noLineEnd noLineEnd]
    cases listingLanguage? (attrs.text? "info") <;> exact fill_probe_single rfl rfl
  | list =>
    refine ⟨"[", fun content _ => ?_⟩
    rw [Renderer.construct, Renderer.list]
    split <;> exact fill_probe_single rfl rfl
  -- These kinds write nothing of the content, and are not asked about.
  | linebreak | softbreak | thematicBreak | blankLine =>
    exact absurd written.symm Bool.false_ne_true
  | table | tableHead | tableBody | tableRow | tableCell =>
    exact absurd outside.symm Bool.false_ne_true
  | unknown name => exact absurd known.symm Bool.false_ne_true
  | _ => exact ⟨"[", fun content _ => fill_probe_single rfl rfl⟩

/-- What is shown of a construct does not end with a line feed. -/
theorem noLineEnd_fill (construct : Construct) (values : Values) :
    NoLineEnd (Renderer.probe.fill construct values) := by
  rw [fill_probe]
  exact noLineEnd_bracket _

/-- What is written of a token does not end with a line feed. -/
theorem noLineEnd_construct (kind : TokenKind) (attrs : Attrs) (content : String) :
    NoLineEnd (Renderer.probe.construct kind attrs content) := by
  -- Every kind either fills a template or writes nothing.
  cases kind with
  | image =>
    rw [Renderer.construct, Renderer.image, fill_probe, ← String.append_assoc]
    exact noLineEnd_bracket _
  | blockCode =>
    rw [Renderer.construct, Renderer.blockCode]
    split <;> exact noLineEnd_fill _ _
  | list =>
    rw [Renderer.construct, Renderer.list]
    split <;> exact noLineEnd_fill _ _
  | table | tableHead | tableBody | tableRow | tableCell | unknown => exact noLineEnd_empty
  | _ => exact noLineEnd_fill _ _

/-- Strong texts are told apart. -/
theorem tells_strong : Tells NoLonger Renderer.probe.strong := by
  intro text other short
  rw [strong_probe, strong_probe]
  exact tells_id.enclose "[" "]" short

/-- The contents of cells are told apart, in bold or not. -/
theorem tells_cellText (attrs : Attrs) : Tells NoLonger (Renderer.probe.cellText attrs) := by
  unfold Renderer.cellText
  split
  · exact tells_strong
  · exact tells_id

/-- Rows of a table are told apart by their cells. -/
theorem tells_rowLine : Tells (List.Forall₂ NoLonger) TableAssembly.rowLine := by
  intro cells others short
  have line := (tells_id.intercalate " & ").enclose "" " \\\\" short
  simpa [TableAssembly.rowLine] using line

/-- Cells of a row are told apart by their contents. -/
theorem tells_cellTexts {attrs : List Attrs} {texts others : List String}
    (short : List.Forall₂ NoLonger texts others) (size : others.length = attrs.length) :
    List.Forall₂ NoLonger (Renderer.probe.cellTexts (attrs.zip texts))
        (Renderer.probe.cellTexts (attrs.zip others)) ∧
      (Renderer.probe.cellTexts (attrs.zip texts) = Renderer.probe.cellTexts (attrs.zip others) →
        texts = others) := by
  induction short generalizing attrs with
  | nil => exact ⟨by simp [Renderer.cellTexts], fun _ => rfl⟩
  -- A cell is told by its own text, and those behind it by theirs.
  | cons first below ih =>
    cases attrs with
    | nil => simp at size
    | cons here attrs =>
      -- One cell is taken off on each side.
      have sizeRest := Nat.succ.inj size
      obtain ⟨shortRest, sameRest⟩ := ih sizeRest
      obtain ⟨shortFirst, sameFirst⟩ := tells_cellText here first
      refine ⟨.cons shortFirst shortRest, fun same => ?_⟩
      obtain ⟨sameHere, sameThere⟩ := List.cons.inj same
      rw [sameFirst sameHere, sameRest sameThere]

/-- The parts of a table are told apart by the contents of their cells. -/
theorem tells_parts {parts : List (TablePart (List Token))} {texts others : List String}
    (short : List.Forall₂ NoLonger texts others)
    (size : others.length = (parts.flatMap TablePart.contents).length) :
    let part := TablePart.refill parts texts
    let other := TablePart.refill parts others
    List.Forall₂ NoLonger (Renderer.probe.headerTexts part) (Renderer.probe.headerTexts other) ∧
      List.Forall₂ (List.Forall₂ NoLonger) (Renderer.probe.rowTexts part)
        (Renderer.probe.rowTexts other) ∧
      (Renderer.probe.headerTexts part = Renderer.probe.headerTexts other →
        Renderer.probe.rowTexts part = Renderer.probe.rowTexts other → texts = others) := by
  -- Each part takes the texts of its own cells from the front.
  induction parts generalizing texts others with
  | nil =>
    have none : others = [] := List.eq_nil_of_length_eq_zero (by simpa using size)
    subst none
    cases short
    exact ⟨.nil, .nil, fun _ _ => rfl⟩
  | cons part rest ih =>
    cases part with
    | header attrs content =>
      -- A header takes one text, which is written in bold.
      cases short with
      | nil => simp [TablePart.contents] at size
      | cons first below =>
        have sizeRest := Nat.succ.inj size
        obtain ⟨shortHeader, shortRows, same⟩ := ih below sizeRest
        obtain ⟨shortFirst, sameFirst⟩ := tells_strong first
        refine ⟨.cons shortFirst shortHeader, shortRows, fun sameHeader sameRows => ?_⟩
        obtain ⟨sameHere, sameThere⟩ := List.cons.inj sameHeader
        rw [sameFirst sameHere, same sameThere sameRows]
    | row cells =>
      simp only [List.flatMap_cons, TablePart.contents, List.length_append, List.length_map] at size
      -- A row takes as many texts as it has cells, and leaves the others to the parts behind it.
      have shortFront := List.forall₂_take cells.length short
      have shortBack := List.forall₂_drop cells.length short
      have sizeBack :
          (others.drop cells.length).length = (rest.flatMap TablePart.contents).length := by
        simp only [List.length_drop]
        omega
      obtain ⟨shortHeader, shortRows, same⟩ := ih shortBack sizeBack
      -- The cells of the row and the texts that it took belong to each other.
      have sizeFront : (others.take cells.length).length = (cells.map (·.1)).length := by
        simp only [List.length_take, List.length_map]
        omega
      obtain ⟨shortCells, sameCells⟩ := tells_cellTexts shortFront sizeFront
      refine ⟨shortHeader, .cons shortCells shortRows, fun sameHeader sameRows => ?_⟩
      obtain ⟨sameHere, sameThere⟩ := List.cons.inj sameRows
      rw [← List.take_append_drop cells.length texts, sameCells sameHere,
        same sameHeader sameThere, List.take_append_drop]

/-- Headers of tables are told apart by their cells. -/
theorem tells_headerLine {table other : TableAssembly}
    (short : List.Forall₂ NoLonger table.header other.header) :
    NoLonger table.headerLine other.headerLine ∧
      (table.headerLine = other.headerLine → table.header = other.header) := by
  unfold TableAssembly.headerLine
  -- A header without cells is beside one without cells, and writes no line.
  cases header : table.header with
  | nil =>
    rw [header] at short
    have none : other.header = [] := List.forall₂_nil_left_iff.mp short
    rw [none]
    exact ⟨.refl _, fun _ => rfl⟩
  -- With a cell in one of them there is a cell in the other.
  | cons cell cells =>
    rw [header] at short
    obtain ⟨cell', cells', -, -, header'⟩ := List.forall₂_cons_left_iff.mp short
    rw [header'] at short ⊢
    exact tells_rowLine short

/-- Bodies of tables are told apart by the cells of their rows. -/
theorem tells_bodyLines {table other : TableAssembly}
    (short : List.Forall₂ (List.Forall₂ NoLonger) table.rows other.rows) :
    NoLonger table.bodyLines other.bodyLines ∧
      (table.bodyLines = other.bodyLines → table.rows = other.rows) :=
  tells_rowLine.intercalate "\n        " short

/-- Tables are told apart by their numbers and by the contents of their cells. -/
theorem tells_tableBlock {number number' : Nat} (below : number ≤ number')
    {parts : List (TablePart (List Token))} {texts others : List String}
    (short : List.Forall₂ NoLonger texts others)
    (size : others.length = (parts.flatMap TablePart.contents).length) :
    let table := (TablePart.refill parts texts).foldl Renderer.probe.addPart {}
    let other := (TablePart.refill parts others).foldl Renderer.probe.addPart {}
    NoLonger (Renderer.probe.tableBlock number table) (Renderer.probe.tableBlock number' other) ∧
      (Renderer.probe.tableBlock number table = Renderer.probe.tableBlock number' other →
        number = number' ∧ texts = others) := by
  intro table other
  obtain ⟨shortHeader, shortRows, same⟩ := tells_parts short size
  have header (contents : List String) := header_foldl_addPart Renderer.probe
    (TablePart.refill parts contents) {}
  have rows (contents : List String) := rows_foldl_addPart Renderer.probe
    (TablePart.refill parts contents) {}
  simp only [List.nil_append] at header rows
  -- What the assembly holds is what its parts were written as.
  rw [← header, ← header] at shortHeader same
  rw [← rows, ← rows] at shortRows same
  obtain ⟨shortNumber, sameNumber⟩ := tells_toString below
  obtain ⟨shortHead, sameHead⟩ := tells_headerLine shortHeader
  obtain ⟨shortBody, sameBody⟩ := tells_bodyLines shortRows
  have shortFront := shortNumber.append shortHead
  -- Number, header and body are each no longer, so the same whole has the same parts.
  rw [tableBlock_probe, tableBlock_probe]
  obtain ⟨shortAll, sameAll⟩ := tells_id.enclose "[" "]" (shortFront.append shortBody)
  refine ⟨shortAll, fun equal => ?_⟩
  obtain ⟨fronts, bodies⟩ := append_eq_append_of_noLonger shortFront shortBody (sameAll equal)
  obtain ⟨numbers, heads⟩ := append_eq_append_of_noLonger shortNumber shortHead fronts
  exact ⟨sameNumber numbers, same (sameHead heads) (sameBody bodies)⟩

/--
What is shown without unknown tokens, beside what is shown with them: no longer, and the same only
under a condition. Neither ends with a line feed, which is dropped at the end of a code block.
-/
structure Shown (p : Prop) (text other : String) : Prop where
  /-- Nothing is added. -/
  short : NoLonger text other
  /-- The texts differ unless the condition holds. -/
  told : text = other → p
  /-- The first text does not end with a line feed. -/
  noLineEnd : NoLineEnd text
  /-- The other text does not end with a line feed. -/
  noLineEnd' : NoLineEnd other

/-- Texts between brackets are shown when they are told apart. -/
theorem shown_enclose {p : Prop} {text other : String} (front : String)
    (short : NoLonger text other) (told : text = other → p) :
    Shown p (front ++ text ++ "]") (front ++ other ++ "]") := by
  obtain ⟨shortAll, same⟩ := tells_id.enclose front "]" short
  exact ⟨shortAll, fun equal => told (same equal), noLineEnd_bracket _, noLineEnd_bracket _⟩

/-- Texts that are shown one by one are told apart. -/
theorem Each.tells {p : Prop} {texts others : List String} (each : Each Shown p texts others) :
    List.Forall₂ NoLonger texts others ∧ (texts = others → p) := by
  induction each with
  | nil => exact ⟨.nil, fun _ => trivial⟩
  | cons here _ ih =>
    refine ⟨.cons here.short ih.1, fun same => ?_⟩
    -- Lists of texts are the same only if their first texts are and the others are.
    obtain ⟨sameHere, sameThere⟩ := List.cons.inj same
    exact ⟨here.told sameHere, ih.2 sameThere⟩

/-- All that changes without unknown tokens is shown. -/
theorem comparison_probe : Comparison Renderer.probe Shown where
  -- Without content there is nothing to tell apart.
  nothing := ⟨.refl _, fun _ => trivial, noLineEnd_empty, noLineEnd_empty⟩
  -- Where the first text is never longer, the border between the two is seen.
  append front back := by
    refine ⟨front.short.append back.short, fun same => ?_, front.noLineEnd.append back.noLineEnd,
      front.noLineEnd'.append back.noLineEnd'⟩
    obtain ⟨fronts, backs⟩ := append_eq_append_of_noLonger front.short back.short same
    exact ⟨front.told fronts, back.told backs⟩
  same kind attrs text :=
    ⟨.refl _, fun _ => trivial, noLineEnd_construct kind attrs text,
      noLineEnd_construct kind attrs text⟩
  -- What stands around a content is the same on both sides.
  around attrs known written outside content := by
    obtain ⟨front, shows⟩ := construct_probe known written outside attrs
    rw [shows _ content.noLineEnd, shows _ content.noLineEnd']
    exact shown_enclose front content.short content.told
  -- Bold or not is told by the cell, which is the same on both sides.
  cell attrs content := by
    by_cases head : attrs.flag "head" = true
    · rw [Renderer.cellText, Renderer.cellText, if_pos head, if_pos head, strong_probe,
        strong_probe]
      exact shown_enclose "[" content.short content.told
    · rw [Renderer.cellText, Renderer.cellText, if_neg head, if_neg head]
      exact content
  -- A number is as much a part of the table as its cells are.
  table below size each := by
    obtain ⟨short, told⟩ := each.tells
    obtain ⟨shortTable, same⟩ := tells_tableBlock below short size
    refine ⟨shortTable, fun equal => ?_, ?_, ?_⟩
    · obtain ⟨numbers, texts⟩ := same equal
      exact ⟨Nat.not_lt.mpr (Nat.le_of_eq numbers.symm), told texts⟩
    · exact noLineEnd_fill _ _
    · exact noLineEnd_fill _ _
  -- A tree that is written flat loses the raw of its unknown tokens, and gains nothing.
  flat token := by
    have short : NoLonger token.pruned.plainText token.plainText := by
      simp only [NoLonger, ← String.length_toList]
      exact token.plainText_pruned_sublist.length_le
    rw [text_probe, text_probe]
    exact shown_enclose "[" short id
  deleted text := by
    rw [text_probe]
    refine ⟨Nat.zero_le _, fun nothing => ?_, noLineEnd_empty, noLineEnd_bracket _⟩
    -- At least the brackets are there.
    have characters := congrArg String.toList nothing
    simp at characters

/--
Whatever the templates and the options are, deleting all unknown tokens does not change what a
renderer writes just when nothing is disturbed that rendering meets.
-/
theorem renderTokens_prunedAll_eq_iff_undisturbed (tokens : List Token) :
    (∀ templates options,
      let r := Renderer.ofTemplates templates options
      (r.renderTokens 0 0 (Token.prunedAll tokens)).1 = (r.renderTokens 0 0 tokens).1) ↔
      Undisturbed (tokens.flatMap (Token.sights maxDepth)) := by
  have level : maxDepth - 0 = maxDepth := Nat.sub_zero maxDepth
  have unshifted (met : List Sight) : UndisturbedBehind (0 < 0) met = Undisturbed met := by
    simp [UndisturbedBehind]
  -- One direction is seen with templates that show everything, the other holds for all of them.
  constructor
  · intro unchanged
    have shown := Renderer.relates rfl comparison_probe 0 maxDepth level tokens 0 0 (Nat.le_refl 0)
    rw [unshifted] at shown
    exact shown.told (unchanged .probe _)
  · intro undisturbed templates options r
    have limited : r.depthLimit? = some maxDepth := rfl
    have same :=
      Renderer.relates limited (comparison_eq r) 0 maxDepth level tokens 0 0 (Nat.le_refl 0)
    rw [unshifted] at same
    exact same undisturbed

/--
Where no table with a written number comes behind a table in an unknown token, deleting all unknown
tokens does not change what is written, whatever the templates and the options are, just when every
tree that is written as its plain text at the depth limit is known and keeps this text.
-/
theorem renderTokens_prunedAll_eq_iff (tokens : List Token)
    (inOrder : (tokens.flatMap (Token.sights maxDepth)).Pairwise
      fun first later => first = .skipped → later ≠ .number) :
    (∀ templates options,
      let r := Renderer.ofTemplates templates options
      (r.renderTokens 0 0 (Token.prunedAll tokens)).1 = (r.renderTokens 0 0 tokens).1) ↔
      ∀ token, .flat token ∈ tokens.flatMap (Token.sights maxDepth) →
        token.kind.isUnknown = false ∧ token.pruned.plainText = token.plainText := by
  rw [renderTokens_prunedAll_eq_iff_undisturbed]
  constructor
  · -- That the numbers are in order is given, so that only the flat trees count.
    exact fun undisturbed token met => undisturbed.kept _ met
  · intro kept
    -- Of what is met only trees at the depth limit put conditions of their own.
    refine ⟨fun sight met => ?_, inOrder⟩
    cases sight with
    | flat token => exact kept token met
    | _ => trivial

/-- A note behind a table can be deleted, with the table in it. -/
theorem renderTokens_prunedAll_eq_iff_note :
    let tokens := [.bare .table, .parent (.unknown "note") [.ofText "a", .bare .table]]
    (tokens.flatMap (Token.sights maxDepth)).Pairwise
        (fun first later => first = .skipped → later ≠ .number) ∧
      ∀ templates options,
        let r := Renderer.ofTemplates templates options
        (r.renderTokens 0 0 [.bare .table]).1 = (r.renderTokens 0 0 tokens).1 := by
  intro tokens
  -- There is no tree at the depth limit, and no number behind the note.
  have met : tokens.flatMap (Token.sights maxDepth) = [.number, .skipped] := rfl
  have inOrder : (tokens.flatMap (Token.sights maxDepth)).Pairwise
      fun first later => first = .skipped → later ≠ .number := by
    rw [met]
    simp
  refine ⟨inOrder, (renderTokens_prunedAll_eq_iff tokens inOrder).mpr fun token flat => ?_⟩
  rw [met] at flat
  simp at flat

/--
Deleting an unknown token changes what is written when its text is part of the plain text of a tree
at the depth limit, and when a table in it takes the number of a table behind it.
-/
theorem renderTokens_prunedAll_ne :
    let written := fun tokens => (Renderer.probe.renderTokens 0 0 tokens).1
    let deep := [Nat.repeat (fun token => .parent .tableRow [token]) maxDepth
      (.ofRaw (.unknown "note") "a")]
    let numbered := [.parent (.unknown "note") [.bare .table], .bare .table]
    written (Token.prunedAll deep) ≠ written deep ∧
      written (Token.prunedAll numbered) ≠ written numbered := by
  -- In the one list a text is lost at the limit, in the other a number in front of a table.
  decide +kernel

end Manuscript
