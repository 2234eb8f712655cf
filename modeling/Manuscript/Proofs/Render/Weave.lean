import Manuscript.Proofs.Render.Assembly
import Manuscript.Proofs.Render.Contents
import Manuscript.Proofs.Template.Builtin
import Manuscript.Proofs.Text.Weaving

/-!
What is rendered with the templates that need no configuration is woven of the contents of the
document: each of them is written once and in order, and what stands around them is known.
-/

namespace Manuscript

/-- What stands around the contents of trees that are rendered while tables are counted between two
numbers. -/
inductive Renderer.Frame (r : Renderer) (tokens : List Token) (first last : Nat) : String → Prop
  /-- Literal text of a template. -/
  | literal {construct : Construct} {text : List Char} :
    .literal text ∈ (Template.builtin construct).segments → Frame r tokens first last (.ofList text)
  /-- What separates the cells of a table, ends its rows, and separates these. -/
  | separator {text : String} : text ∈ [" & ", " \\\\", "\n        "] → Frame r tokens first last text
  /-- The column specification of a table. -/
  | columns (table : TableAssembly) : Frame r tokens first last table.alignmentSpec
  /-- The number of a table. -/
  | number {number : Nat} : (∃ token ∈ Token.preorderAll tokens, token.kind = .table) →
    first < number → number ≤ last → Frame r tokens first last (toString number)
  /-- The sectioning command of a heading. -/
  | command {token : Token} : token ∈ Token.preorderAll tokens → token.kind = .heading →
    Frame r tokens first last (r.options.headings.command ((token.attrs.count? "level").getD 1))
  /-- The target of a link. -/
  | url {token : Token} : token ∈ Token.preorderAll tokens → token.kind = .link →
    Frame r tokens first last ((token.attrs.text? "url").getD "")
  /-- The path of an image. -/
  | path {token : Token} : token ∈ Token.preorderAll tokens → token.kind = .image →
    Frame r tokens first last
      (resolveImagePath r.options.imageRules ((token.attrs.text? "url").getD ""))
  /-- The note on the format of an image. -/
  | note {token : Token} : token ∈ Token.preorderAll tokens → token.kind = .image →
    Frame r tokens first last
      (formatNote (resolveImagePath r.options.imageRules ((token.attrs.text? "url").getD "")))
  /-- The label of an image, made of what is rendered for its caption. -/
  | label {token : Token} (depth tables : Nat) : token ∈ Token.preorderAll tokens →
    token.kind = .image →
      Frame r tokens first last (figureLabel (r.renderTokens depth tables token.children).1)
  /-- The language of a listing. -/
  | language {token : Token} {language : String} : token ∈ Token.preorderAll tokens →
    token.kind = .blockCode → listingLanguage? (token.attrs.text? "info") = some language →
      Frame r tokens first last language

/-- The kinds that write no content. -/
def TokenKind.contentless : List TokenKind := [.linebreak, .softbreak, .thematicBreak, .blankLine]

/-- The kinds that write their content in another form. -/
def TokenKind.rewriting (escapes : Bool) : List TokenKind :=
  if escapes then [.text, .codespan, .blockCode] else [.blockCode]

/-- A token keeps what its children write: it has none where it would drop or change it. -/
def Token.KeepsChildren (escapes : Bool) (token : Token) : Prop :=
  token.kind ∈ TokenKind.contentless ++ TokenKind.rewriting escapes → token.children = []

section Templates

variable {Frame : String → Prop} {held : Placeholder → List String} {values : Values}

/-- What is written through a template is woven of what is held in its slots. -/
theorem woven_render {template : Template}
    (literal : ∀ text, .literal text ∈ template.segments → Frame (.ofList text))
    (slot : ∀ placeholder ∈ template.slots,
      Woven Frame (held placeholder) (Template.valueOf values placeholder)) :
    Woven Frame (template.slots.flatMap held) (template.render values) := by
  obtain ⟨segments⟩ := template
  unfold Template.slots Template.render at *
  simp only at *
  -- The parts are written one after another, so each adds its own frame or content in front.
  induction segments with
  | nil => exact .nil
  | cons segment rest ih =>
    have others := ih (fun text member => literal text (by simp [member]))
    rw [List.map_cons, String.join_cons]
    cases segment with
    -- A slot is woven out of what stands in it.
    | literal text =>
      exact .frame (literal text (by simp)) (others slot)
    | slot placeholder =>
      simp only [List.filterMap_cons, List.flatMap_cons] at slot ⊢
      obtain ⟨here, below⟩ := List.forall_mem_cons.mp slot
      exact here.append (others below)

end Templates

namespace Renderer

variable {r : Renderer} (builtin : r.fill = TemplateSet.builtin.fill) {tokens : List Token}
  {first last : Nat} {contents : List String} {content : String}

include builtin

/-- A construct is woven of what is held in the slots of its template. -/
theorem woven_fill {construct : Construct} {held : Placeholder → List String} {values : Values}
    (slot : ∀ placeholder ∈ construct.slots,
      Woven (r.Frame tokens first last) (held placeholder)
        (Template.valueOf values placeholder)) :
    Woven (r.Frame tokens first last) (construct.slots.flatMap held)
      (r.fill construct values) := by
  -- The literal pieces of the built-in templates are frames by definition.
  rw [builtin, ← Template.slots_builtin]
  rw [← Template.slots_builtin] at slot
  exact woven_render (fun _ member => .literal member) slot

/-- A construct with content in one slot and with frames in the others is woven of its content. -/
theorem woven_fill_single {construct : Construct} (shown : Placeholder) {values : Values}
    (single : construct.slots.filter (· = shown) = [shown])
    (woven : Woven (r.Frame tokens first last) contents (Template.valueOf values shown))
    (others : ∀ placeholder ∈ construct.slots, placeholder ≠ shown →
      r.Frame tokens first last (Template.valueOf values placeholder)) :
    Woven (r.Frame tokens first last) contents (r.fill construct values) := by
  -- All contents belong to the one slot, and the other slots hold none.
  let held (placeholder : Placeholder) : List String :=
    if placeholder = shown then contents else []
  have once (slots : List Placeholder) :
      slots.flatMap held = (slots.filter (· = shown)).flatMap fun _ => contents := by
    induction slots with
    | nil => rfl
    | cons placeholder rest ih =>
      by_cases isShown : placeholder = shown <;> simp [held, isShown, ih]
  -- Every slot is woven for itself first, and then the slots without contents fall away.
  have whole : Woven (r.Frame tokens first last) (construct.slots.flatMap held)
      (r.fill construct values) := by
    refine woven_fill builtin fun placeholder member => ?_
    by_cases isShown : placeholder = shown
    · simpa [held, isShown] using woven
    · simpa [held, isShown] using woven_frame (others placeholder member isShown)
  rwa [once, single, List.flatMap_singleton] at whole

/-- A construct with one slot is woven of its content. -/
theorem woven_fillText {construct : Construct} (single : construct.slots = [.text])
    (woven : Woven (r.Frame tokens first last) contents content) :
    Woven (r.Frame tokens first last) contents (r.fillText construct content) := by
  -- There is no slot but the one of the text.
  refine woven_fill_single builtin .text (by rw [single]; rfl) woven fun other member notText => ?_
  rw [single] at member
  exact absurd (List.mem_singleton.mp member) notText

/-- A construct without slots holds no content. -/
theorem woven_fill_empty {construct : Construct} (empty : construct.slots = []) {values : Values} :
    Woven (r.Frame tokens first last) [] (r.fill construct values) := by
  have whole : Woven (r.Frame tokens first last) (construct.slots.flatMap fun _ => [])
      (r.fill construct values) := woven_fill builtin (by simp [empty])
  simpa [empty] using whole

section Token

variable {token : Token} (inside : token ∈ Token.preorderAll tokens)

include inside

/-- A link is woven of its content. -/
theorem woven_link (isLink : token.kind = .link)
    (woven : Woven (r.Frame tokens first last) contents content) :
    Woven (r.Frame tokens first last) contents
      (r.link content ((token.attrs.text? "url").getD "") (token.attrs.text? "title")) :=
  -- The url is a frame, and the text is what the link holds.
  woven_fill_single builtin .text rfl woven <| List.forall_mem_cons.mpr
    ⟨fun _ => .url inside isLink, List.forall_mem_singleton.mpr fun notText => absurd rfl notText⟩

/-- An image is woven of its caption. -/
theorem woven_image (isImage : token.kind = .image)
    (label : r.Frame tokens first last (figureLabel content))
    (woven : Woven (r.Frame tokens first last) contents content) :
    Woven (r.Frame tokens first last) contents
      (r.image content ((token.attrs.text? "url").getD "") (token.attrs.text? "title")) := by
  -- The note comes first, and path and label are frames around the caption.
  refine .frame (.note inside isImage) (woven_fill_single builtin .alt rfl woven ?_)
  exact List.forall_mem_cons.mpr ⟨fun _ => .path inside isImage, List.forall_mem_cons.mpr
    ⟨fun notAlt => absurd rfl notAlt, List.forall_mem_singleton.mpr fun _ => label⟩⟩

/-- A heading is woven of its content. -/
theorem woven_heading (isHeading : token.kind = .heading)
    (woven : Woven (r.Frame tokens first last) contents content) :
    Woven (r.Frame tokens first last) contents
      (r.heading content ((token.attrs.count? "level").getD 1)) :=
  -- The command of the level is a frame.
  woven_fill_single builtin .text rfl woven <| List.forall_mem_cons.mpr
    ⟨fun _ => .command inside isHeading,
      List.forall_mem_singleton.mpr fun notText => absurd rfl notText⟩

/-- A code block is woven of its code. -/
theorem woven_blockCode (isCode : token.kind = .blockCode)
    (woven : Woven (r.Frame tokens first last) contents (withoutLastNewline content)) :
    Woven (r.Frame tokens first last) contents
      (r.blockCode content (token.attrs.text? "info")) := by
  unfold blockCode
  split
  -- A listing has its language in a second slot, which is a frame.
  case h_1 language found =>
    exact woven_fill_single builtin .code rfl woven <| List.forall_mem_cons.mpr
      ⟨fun _ => .language inside isCode found,
        List.forall_mem_singleton.mpr fun notCode => absurd rfl notCode⟩
  case h_2 =>
    exact woven_fill_single builtin .code rfl woven
      (List.forall_mem_singleton.mpr fun notCode => absurd rfl notCode)

/-- A token outside of tables is woven of what it writes for its content. -/
theorem woven_construct (known : token.kind.isUnknown = false) (outside : token.kind.inTable = false)
    (label : token.kind = .image → r.Frame tokens first last (figureLabel content))
    (written : token.kind ∈ TokenKind.contentless → contents = [])
    (woven : Woven (r.Frame tokens first last) contents (r.ownText token.kind content)) :
    Woven (r.Frame tokens first last) contents
      (r.construct token.kind token.attrs content) := by
  -- The kinds with more than one slot come first, and the kinds that cannot be met are ruled out.
  cases kind : token.kind
  all_goals rw [kind] at known outside label written woven
  case link => exact woven_link builtin inside kind woven
  case image => exact woven_image builtin inside kind (label rfl) woven
  case heading => exact woven_heading builtin inside kind woven
  case blockCode => exact woven_blockCode builtin inside kind woven
  case linebreak | softbreak | thematicBreak | blankLine =>
    obtain rfl := written (by decide)
    -- These kinds have no content, and no slot for one either.
    exact woven_fill_empty builtin rfl
  case list =>
    rw [construct, list]
    split <;> exact woven_fillText builtin rfl woven
  case table | tableHead | tableBody | tableRow | tableCell =>
    exact absurd outside (by decide)
  case unknown => exact absurd known (by simp [TokenKind.isUnknown])
  all_goals exact woven_fillText builtin rfl woven

end Token

/-- A cell is woven of its content, in bold or not. -/
theorem woven_cellText (attrs : Attrs)
    (woven : Woven (r.Frame tokens first last) contents content) :
    Woven (r.Frame tokens first last) contents (r.cellText attrs content) := by
  unfold cellText
  split
  · -- A head cell is written in bold, and any other one as it is.
    exact woven_fillText builtin rfl woven
  · exact woven

section Table

variable {g : Token → List String}

/-- The cells of a row are woven of their contents. -/
theorem woven_cellTexts {cells : List Token} {texts : List String}
    (each : List.Forall₂
      (fun tokens' text => Woven (r.Frame tokens first last) (tokens'.flatMap g) text)
      (cells.map Token.children) texts) :
    List.Forall₂
      (fun cell text => Woven (r.Frame tokens first last) (cell.children.flatMap g) text)
      cells (r.cellTexts ((cells.map Token.attrs).zip texts)) := by
  -- Each cell takes one text.
  induction cells generalizing texts with
  | nil =>
    cases each
    exact .nil
  | cons cell rest ih =>
    cases each with
    | cons here below => exact .cons (woven_cellText builtin cell.attrs here) (ih below)

/-- The header cells and the rows of a table are woven of the contents of their cells. -/
theorem woven_parts {heads : List Token} {rows : List (List Token)} {texts : List String}
    (each : List.Forall₂
      (fun tokens' text => Woven (r.Frame tokens first last) (tokens'.flatMap g) text)
      ((heads.map Token.headerPart ++ rows.map Token.rowPart).flatMap TablePart.contents) texts) :
    let parts := TablePart.refill (heads.map Token.headerPart ++ rows.map Token.rowPart) texts
    let cell := fun (cell : Token) text =>
      Woven (r.Frame tokens first last) (cell.children.flatMap g) text
    List.Forall₂ cell heads (r.headerTexts parts) ∧
      List.Forall₂ (List.Forall₂ cell) rows (r.rowTexts parts) := by
  -- Every part takes the texts of its own cells from the front.
  induction heads generalizing texts with
  | cons head rest ih =>
    cases each with
    -- A header has a single content.
    | cons here below =>
      obtain ⟨header, body⟩ := ih below
      exact ⟨.cons (woven_fillText builtin rfl here) header, body⟩
  | nil =>
    simp only [List.map_nil, List.nil_append] at each ⊢
    induction rows generalizing texts with
    | nil =>
      cases each
      exact ⟨.nil, .nil⟩
    | cons cells rest ih =>
      -- A row has one content for each of its cells, and takes as many texts.
      have contents : (Token.rowPart cells).contents = cells.map Token.children := by
        simp [Token.rowPart, TablePart.contents]
      rw [List.map_cons, List.flatMap_cons, contents] at each
      have front := List.forall₂_take cells.length each
      have back := List.forall₂_drop cells.length each
      rw [List.take_left' (by simp)] at front
      rw [List.drop_left' (by simp)] at back
      obtain ⟨header, body⟩ := ih back
      have filled : TablePart.refill (Token.rowPart cells :: rest.map Token.rowPart) texts =
          .row ((cells.map Token.attrs).zip (texts.take cells.length)) ::
            TablePart.refill (rest.map Token.rowPart) (texts.drop cells.length) := by
        simp [Token.rowPart, TablePart.refill, Function.comp_def]
      rw [List.map_cons, filled]
      exact ⟨header, .cons (woven_cellTexts builtin front) body⟩

omit builtin in
/-- A row of a table is woven of its cells. -/
theorem woven_rowLine {cells : List Token} {texts : List String}
    (each : List.Forall₂
      (fun cell text => Woven (r.Frame tokens first last) (cell.children.flatMap g) text)
      cells texts) :
    Woven (r.Frame tokens first last) (cells.flatMap fun cell => cell.children.flatMap g)
      (TableAssembly.rowLine texts) := by
  -- Cells are kept apart and rows ended by what is no content.
  have between : r.Frame tokens first last " & " := .separator (by simp)
  have ending : r.Frame tokens first last " \\\\" := .separator (by simp)
  simpa [TableAssembly.rowLine] using (woven_intercalate between each).append (woven_frame ending)

/-- A table is woven of its header cells and then of the cells of its rows. -/
theorem woven_tableBlock {number : Nat} {heads : List Token} {rows : List (List Token)}
    {table : TableAssembly} (numbered : r.Frame tokens first last (toString number))
    (header : List.Forall₂
      (fun cell text => Woven (r.Frame tokens first last) (cell.children.flatMap g) text)
      heads table.header)
    (body : List.Forall₂ (List.Forall₂
      fun cell text => Woven (r.Frame tokens first last) (cell.children.flatMap g) text)
      rows table.rows) :
    Woven (r.Frame tokens first last)
      ((heads.flatMap fun cell => cell.children.flatMap g) ++
        rows.flatMap fun cells => cells.flatMap fun cell => cell.children.flatMap g)
      (r.tableBlock number table) := by
  -- A table without a header has no line for it, and no header cells either.
  have headerLine : Woven (r.Frame tokens first last)
      (heads.flatMap fun cell => cell.children.flatMap g) table.headerLine := by
    unfold TableAssembly.headerLine
    split
    case isTrue empty =>
      rw [List.isEmpty_iff.mp empty] at header
      cases header
      exact .nil
    case isFalse => exact woven_rowLine header
  have bodyLines : Woven (r.Frame tokens first last)
      (rows.flatMap fun cells => cells.flatMap fun cell => cell.children.flatMap g)
      table.bodyLines := by
    refine woven_intercalate (.separator (by simp)) ?_
    exact List.forall₂_map_right_iff.mpr (body.imp fun _ _ row => woven_rowLine row)
  -- The contents stand in two of the four slots, the header in front of the body.
  let held : Placeholder → List String
    | .header => heads.flatMap fun cell => cell.children.flatMap g
    | .body => rows.flatMap fun cells => cells.flatMap fun cell => cell.children.flatMap g
    | _ => []
  have whole : Woven (r.Frame tokens first last) (Construct.table.slots.flatMap held)
      (r.tableBlock number table) := by
    refine woven_fill builtin fun placeholder member => ?_
    have slots : placeholder = .counter ∨ placeholder = .alignment ∨ placeholder = .header ∨
        placeholder = .body := by simpa [Construct.slots] using member
    -- Number and columns are frames, and the two lines hold the cells.
    rcases slots with rfl | rfl | rfl | rfl
    · exact woven_frame numbered
    · exact woven_frame (.columns table)
    · exact headerLine
    · exact bodyLines
  simpa [Construct.slots, held] using whole

end Table

end Renderer

/-- A text that is woven of the contents of trees, and empty without any trees. -/
def Renderer.WovenFrom (r : Renderer) (tokens : List Token) (first last room : Nat)
    (trees : List Token) (text : String) : Prop :=
  (trees = [] → text = "") ∧
    Woven (r.Frame tokens first last) (trees.flatMap (r.contents room)) text

section Rendering

variable {r : Renderer} (builtin : r.fill = TemplateSet.builtin.fill) {tokens : List Token}
  {first last depth room tables : Nat} {token : Token}

/-- A token with text writes it as its content. -/
theorem ownContent_of_leaf {raw : String} (outline : token.outline = .leaf raw) :
    r.ownContent token = [r.ownText token.kind raw] := by
  simp [Renderer.ownContent, Token.raw?_of_outline outline]

/-- A token around others has no content of its own. -/
theorem ownContent_of_none (noText : token.raw? = none) : r.ownContent token = [] := by
  simp [Renderer.ownContent, noText]

/-- What a token makes of the text of its children is woven of their contents. -/
theorem woven_ownText (keeps : token.KeepsChildren r.options.escape) {text : String}
    (woven : r.WovenFrom tokens first last room token.children text) :
    Woven (r.Frame tokens first last) (token.children.flatMap (r.contents room))
      (r.ownText token.kind text) := by
  obtain ⟨empty, woven⟩ := woven
  by_cases rewrites : token.kind ∈ TokenKind.rewriting r.options.escape
  · -- The text would be changed, but there is none.
    have childless := keeps (List.mem_append_right _ rewrites)
    have nothing : r.ownText token.kind "" = "" := by
      unfold Renderer.ownText Renderer.escaped
      split <;> first | rfl | (split <;> rfl)
    rw [empty childless, nothing, childless]
    exact .nil
  -- Any other text is written as it is.
  · have same : r.ownText token.kind text = text := by
      unfold Renderer.ownText Renderer.escaped
      unfold TokenKind.rewriting at rewrites
      split <;> split at rewrites <;> simp_all
    rwa [same]

/-- What is rendered one level below a token with one list of tokens. -/
theorem innerTexts_of_single {content : List Token} (single : token.outline.contents = [content]) :
    (r.innerTexts depth tables token).1 =
      [(r.renderTokens (depth + 1) (tables + token.ownNumbers) content).1] := by
  unfold Renderer.innerTexts
  -- One list is rendered, one level down and behind the numbers of the token itself.
  rw [single]
  rfl

include builtin

section Write

variable (read : token.IsRead)
  (each : List.Forall₂ (r.WovenFrom tokens first last room) token.outline.contents
    (r.innerTexts depth tables token).1)

include read each

/-- A table is woven of the contents of its cells. -/
theorem woven_write_table (inside : token ∈ Token.preorderAll tokens)
    (isTable : token.kind = .table) (start : first ≤ tables) (stop : tables < last) :
    Woven (r.Frame tokens first last)
      (r.ownContent token ++ token.inner.flatMap (r.contents room))
      (r.write (tables + 1) token.kind token.attrs
        (token.outline.refill (r.innerTexts depth tables token).1)) := by
  -- A table has no text of its own, so all contents come from its cells.
  have own := ownContent_of_none (r := r) (read.raw?_eq_none (by rw [isTable]; decide))
  obtain ⟨head, body, children, isHead, isBody⟩ := read.table isTable
  have outline : token.outline =
      .table (head.children.map Token.headerPart ++
        (Token.bodyRows body.children).map Token.rowPart) := by
    rw [← Token.sectionParts_of_table children isHead isBody.1]
    unfold Token.outline
    rw [isTable]
  -- The number is one that this rendering counts.
  have numbered : r.Frame tokens first last (toString (tables + 1)) :=
    .number ⟨token, inside, isTable⟩ (by omega) (by omega)
  rw [outline] at each
  obtain ⟨header, rows⟩ := Renderer.woven_parts builtin (each.imp fun _ _ woven => woven.2)
  rw [own, List.nil_append, Token.inner_flatMap_of_table isTable children isHead isBody.1, outline]
  refine Renderer.woven_tableBlock builtin numbered ?_ ?_
  · rwa [header_foldl_addPart]
  · rwa [rows_foldl_addPart]

/-- A part of a table that stands by itself is woven of the contents of its children. -/
theorem woven_write_part (inTable : token.kind.inTable = true)
    (outline : token.outline = .sequence token.children ∨ token.outline = .cell token.children) :
    Woven (r.Frame tokens first last)
      (r.ownContent token ++ token.inner.flatMap (r.contents room))
      (r.write (tables + 1) token.kind token.attrs
        (token.outline.refill (r.innerTexts depth tables token).1)) := by
  -- No part of a table has text of its own.
  have other : token.kind ∉ Token.textKinds := by
    intro text
    cases kind : token.kind <;> simp_all [Token.textKinds, TokenKind.inTable]
  have single : token.outline.contents = [token.children] := by
    -- Heads, bodies and rows are written as their children are, and a cell perhaps in bold.
    rcases outline with outline | outline <;> rw [outline] <;> rfl
  rw [ownContent_of_none (read.raw?_eq_none other), List.nil_append, Token.inner, single,
    innerTexts_of_single single, List.flatten_singleton]
  rw [innerTexts_of_single single, single] at each
  obtain ⟨⟨-, woven⟩, -⟩ := List.forall₂_cons.mp each
  rcases outline with outline | outline <;> rw [outline]
  · exact woven
  · exact Renderer.woven_cellText builtin token.attrs woven

/-- A construct is woven of its text, or of the contents of its children. -/
theorem woven_write_construct (inside : token ∈ Token.preorderAll tokens)
    (outside : token.kind.inTable = false) (keeps : token.KeepsChildren r.options.escape)
    (outline : (∃ raw, token.outline = .leaf raw) ∨ token.outline = .around token.children) :
    Woven (r.Frame tokens first last)
      (r.ownContent token ++ token.inner.flatMap (r.contents room))
      (r.write (tables + 1) token.kind token.attrs
        (token.outline.refill (r.innerTexts depth tables token).1)) := by
  rcases outline with ⟨raw, outline⟩ | outline
  -- Such a token holds its text itself, and is none of the kinds that write no content.
  · have text := Token.raw?_of_outline outline
    have kinds := (read.raw (by simp [text])).1
    rw [ownContent_of_leaf outline, Token.inner, outline]
    refine Renderer.woven_construct builtin inside read.known outside ?_ ?_ (woven_content _)
    · intro isImage
      exact absurd kinds (by rw [isImage]; decide)
    · have apart : ∀ kind ∈ Token.textKinds, kind ∉ TokenKind.contentless := by decide
      exact fun contentless => absurd contentless (apart _ kinds)
  -- The contents are those of the children, which are rendered in one list.
  · have single : token.outline.contents = [token.children] := by
      rw [outline]
      rfl
    rw [ownContent_of_none (Token.raw?_of_outline_around outline), List.nil_append, Token.inner,
      single, innerTexts_of_single single, List.flatten_singleton, outline]
    rw [innerTexts_of_single single, single] at each
    obtain ⟨woven, -⟩ := List.forall₂_cons.mp each
    refine Renderer.woven_construct builtin inside read.known outside ?_ ?_
      (woven_ownText keeps woven)
    · -- The label of an image is made of its caption.
      exact fun isImage => .label _ _ inside isImage
    · -- A kind that writes no content has no children to lose.
      intro contentless
      rw [keeps (List.mem_append_left _ contentless), List.flatMap_nil]

end Write

/-- Texts that are woven of the contents of trees go with these. -/
theorem handsOn_woven : r.HandsOn
    (fun token => token ∈ Token.preorderAll tokens ∧ token.IsRead ∧
      token.KeepsChildren r.options.escape) first last (r.WovenFrom tokens first last) where
  nothing _ := ⟨fun _ => rfl, .nil⟩
  -- Where nothing is held on either side, nothing is held by both.
  append {room front back text text'} first last := by
    refine ⟨fun nothing => ?_, ?_⟩
    · obtain ⟨noFront, noBack⟩ := List.append_eq_nil_iff.mp nothing
      rw [first.1 noFront, last.1 noBack]
      rfl
    · rw [List.flatMap_append]
      exact first.2.append last.2
  -- A tree at the limit is written as one text, and that is what it holds.
  flat token := by
    refine ⟨nofun, ?_⟩
    rw [List.flatMap_singleton, r.contents_zero]
    exact Renderer.woven_fillText builtin rfl (woven_content _)
  -- Each kind of outline has its own lemma, with the tokens inside woven already.
  write {depth room tables token} good start stop each := by
    obtain ⟨inside, read, keeps⟩ := good token token.mem_preorder_self
    refine ⟨nofun, ?_⟩
    rw [List.flatMap_singleton, r.contents_succ (fun found within => (good found within).2.1)]
    rcases token.outline_cases with ⟨isTable, -⟩ | ⟨inTable, -, outline⟩ | ⟨outside, outline⟩
    · exact woven_write_table builtin read each inside isTable start (stop isTable)
    · exact woven_write_part builtin read each inTable outline
    · exact woven_write_construct builtin read each inside outside keeps outline

end Rendering

/--
What is rendered with the templates that need no configuration, of trees as they are read from a
document that have no children where these would be dropped or changed, is woven of the contents
of the trees: each content stands in it once, in order, with nothing but frames around it.
-/
theorem renderTokens_woven (options : RenderOptions) (depth tables : Nat) {tokens : List Token}
    (read : ∀ token ∈ Token.preorderAll tokens, token.IsRead)
    (keeps : ∀ token ∈ Token.preorderAll tokens, token.KeepsChildren options.escape) :
    let r := Renderer.ofTemplates .builtin options
    let written := r.renderTokens depth tables tokens
    Woven (r.Frame tokens tables written.2) (tokens.flatMap (r.contents (maxDepth - depth)))
      written.1 := by
  intro r written
  -- The walk hands the weaving on from every token to the list that it stands in.
  have hands : r.HandsOn _ tables written.2 (r.WovenFrom tokens tables written.2) :=
    handsOn_woven rfl
  exact (hands.renderTokens rfl rfl (fun token inside => ⟨inside, read token inside,
    keeps token inside⟩) (Nat.le_refl _) (Nat.le_refl _)).2

/-- Emphasized text and a formula are written once each, the text escaped. -/
theorem renderTokens_woven_emphasis :
    let tokens := [Token.parent .emphasis [.ofText "_"], .ofRaw .inlineMath "x_1"]
    let r := Renderer.ofTemplates .builtin {}
    (∀ token ∈ Token.preorderAll tokens, token.IsRead ∧ token.KeepsChildren true) ∧
      Woven (r.Frame tokens 0 0) ["\\_", "x_1"] "\\emph\x7b\\_\x7d$x_1$" := by
  intro tokens r
  have each : ∀ token ∈ Token.preorderAll tokens, token.IsRead ∧ token.KeepsChildren true := by
    -- Neither emphasis nor a formula holds children that would be lost.
    refine List.forall_mem_cons.mpr ⟨⟨⟨nofun, rfl, nofun⟩, ?_⟩, List.forall_mem_cons.mpr
      ⟨⟨⟨fun _ => ⟨by decide, rfl⟩, rfl, nofun⟩, fun _ => rfl⟩,
        List.forall_mem_singleton.mpr ⟨⟨fun _ => ⟨by decide, rfl⟩, rfl, nofun⟩, fun _ => rfl⟩⟩⟩
    exact fun drops => absurd drops (by decide)
  have woven : Woven (r.Frame tokens 0 (r.renderTokens 0 0 tokens).2)
      (tokens.flatMap (r.contents maxDepth)) (r.renderTokens 0 0 tokens).1 :=
    renderTokens_woven {} 0 0 (fun token inside => (each token inside).1)
      (fun token inside => (each token inside).2)
  -- Both sides are computed, since the trees are closed.
  have contents : tokens.flatMap (r.contents maxDepth) = ["\\_", "x_1"] := by decide +kernel
  have written : r.renderTokens 0 0 tokens = ("\\emph\x7b\\_\x7d$x_1$", 0) := by decide +kernel
  rw [contents, written] at woven
  exact ⟨each, woven⟩

/-- A line break drops what is in it, and text in a text is escaped twice. -/
theorem renderTokens_not_woven :
    let r := Renderer.ofTemplates .builtin {}
    let dropped := Token.parent .linebreak [.ofText "a"]
    let twice := Token.parent .text [.ofText "^"]
    (∀ token ∈ dropped.preorder ++ twice.preorder, token.IsRead) ∧
      ∀ Frame,
        ¬ Woven Frame (r.contents maxDepth dropped) (r.renderToken 0 0 dropped).1 ∧
        ¬ Woven Frame (r.contents maxDepth twice) (r.renderToken 0 0 twice).1 := by
  intro r dropped twice
  have read : ∀ token ∈ dropped.preorder ++ twice.preorder, token.IsRead := by
    -- All tokens in the two trees are of the shape that is read.
    have text (raw : String) : (Token.ofText raw).IsRead :=
      ⟨fun _ => ⟨List.mem_cons_self, rfl⟩, rfl, nofun⟩
    exact List.forall_mem_cons.mpr ⟨⟨nofun, rfl, nofun⟩, List.forall_mem_cons.mpr
      ⟨text _, List.forall_mem_cons.mpr ⟨⟨nofun, rfl, nofun⟩,
        List.forall_mem_singleton.mpr (text _)⟩⟩⟩
  refine ⟨read, fun Frame => ⟨fun woven => ?_, fun woven => ?_⟩⟩
  -- The text is a content, but it is not found in what is written.
  · have stands : "a".toList <:+: (r.renderToken 0 0 dropped).1.toList :=
      woven.infix_of_mem (by decide +kernel)
    exact absurd stands (by decide +kernel)
  · have stands : "\\textasciicircum\x7b\x7d".toList <:+:
        (r.renderToken 0 0 twice).1.toList := woven.infix_of_mem (by decide +kernel)
    exact absurd stands (by decide +kernel)

end Manuscript
