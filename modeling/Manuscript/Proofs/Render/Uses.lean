import Manuscript.Proofs.Render.Walk
import Mathlib.Data.List.Basic

/-!
The constructs that a rendering uses. What is rendered depends on the templates of these and on no
others, so that a template that is replaced changes only documents that use its construct.
-/

namespace Manuscript

/-- The construct that a token outside of tables is written as. -/
def Token.construct? (kind : TokenKind) (attrs : Attrs) : Option Construct :=
  match kind with
  | .text => some .text
  | .emphasis => some .emphasis
  | .strong => some .strong
  | .link => some .link
  | .image => some .image
  | .codespan => some .codespan
  | .linebreak => some .linebreak
  | .softbreak => some .softbreak
  | .inlineMath => some .inlineMath
  | .paragraph => some .paragraph
  | .heading => some .heading
  | .blockText => some .blockText
  -- Only a listing needs to be told its language.
  | .blockCode =>
    if (listingLanguage? (attrs.text? "info")).isSome then some .blockCodeWithLang
    else some .blockCode
  | .blockQuote => some .blockQuote
  | .blockMath => some .blockMath
  | .thematicBreak => some .thematicBreak
  | .blankLine => some .blankLine
  | .list => if attrs.flag "ordered" then some .orderedList else some .unorderedList
  | .orderedList => some .orderedList
  | .unorderedList => some .unorderedList
  | .listItem => some .listItem
  | .table | .tableHead | .tableBody | .tableRow | .tableCell | .unknown _ => none

/-- The constructs that a cell uses for itself: it is strong when it is marked as a header cell. -/
def cellConstructs (attrs : Attrs) : List Construct :=
  if attrs.flag "head" then [.strong] else []

/-- The constructs that the cells in a part of a table use for themselves. -/
def TablePart.constructs {α : Type} : TablePart α → List Construct
  -- A header cell is strong, whether it is marked or not.
  | .header _ _ => [.strong]
  | .row cells => cells.flatMap fun cell => cellConstructs cell.1

/-- The constructs that a token uses for itself; a table uses those of its cells as well. -/
def Token.constructs (token : Token) : List Construct :=
  match token.outline with
  | .leaf _ | .around _ => (Token.construct? token.kind token.attrs).toList
  | .sequence _ => []
  | .cell _ => cellConstructs token.attrs
  | .table parts => .table :: parts.flatMap TablePart.constructs

/--
The constructs that rendering a tree uses where a number of levels is left up to the depth limit:
those of each token that it reaches, and that of text for each tree that is too deep.
-/
def Token.usedWithin : Nat → Token → List Construct
  | 0, _ => [.text]
  | room + 1, token => token.constructs ++ token.inner.flatMap (usedWithin room)

/-- The parts of a table use no other constructs when their contents are replaced. -/
theorem TablePart.constructs_refill_subset {α β : Type} (parts : List (TablePart α))
    (contents : List β) :
    (refill parts contents).flatMap constructs ⊆ parts.flatMap constructs := by
  induction parts generalizing contents with
  | nil => cases contents <;> exact List.Subset.refl _
  | cons part rest ih =>
    cases part with
    | header attrs content =>
      cases contents with
      | nil => exact List.nil_subset _
      | cons first others =>
        simp only [refill, List.flatMap_cons]
        -- A header cell is written in bold, whatever fills it.
        exact List.append_subset.mpr ⟨List.subset_append_left ..,
          List.subset_append_of_subset_right _ (ih others)⟩
    | row cells =>
      simp only [refill, List.flatMap_cons]
      refine List.append_subset.mpr ⟨fun construct member => ?_, fun construct member =>
        List.mem_append_right _ (ih _ member)⟩
      -- The cells keep their attributes, in order, as far as there are contents for them.
      obtain ⟨cell, within, used⟩ := List.mem_flatMap.mp member
      obtain ⟨original, inside, same⟩ := List.mem_map.mp (List.of_mem_zip within).1
      exact List.mem_append_left _ (List.mem_flatMap.mpr ⟨original, inside, same ▸ used⟩)

/-- Two renderers differ in the templates at most, and not in those of some constructs. -/
structure Renderer.AgreesOn (r other : Renderer) (constructs : List Construct) : Prop where
  /-- The choices are the same. -/
  options : r.options = other.options
  /-- The same trees are too deep. -/
  depthLimit? : r.depthLimit? = other.depthLimit?
  /-- The templates of the constructs are the same. -/
  fill : ∀ construct ∈ constructs, r.fill construct = other.fill construct

namespace Renderer.AgreesOn

variable {r other : Renderer} {constructs fewer : List Construct}

/-- Agreement on some constructs is agreement on fewer of them. -/
theorem mono (agrees : r.AgreesOn other constructs) (subset : fewer ⊆ constructs) :
    r.AgreesOn other fewer :=
  ⟨agrees.options, agrees.depthLimit?, fun construct member =>
    agrees.fill construct (subset member)⟩

/-- Text is escaped in the same way. -/
theorem escaped (agrees : r.AgreesOn other constructs) (text : String) :
    r.escaped text = other.escaped text := by
  rw [Renderer.escaped, Renderer.escaped, agrees.options]

/-- Text is written alike. -/
theorem text (agrees : r.AgreesOn other [.text]) (text : String) : r.text text = other.text text := by
  rw [Renderer.text, Renderer.text, fillText, fillText, agrees.escaped,
    agrees.fill .text List.mem_cons_self]

/-- Strong content is written alike. -/
theorem strong (agrees : r.AgreesOn other [.strong]) (content : String) :
    r.strong content = other.strong content := by
  rw [Renderer.strong, Renderer.strong, fillText, fillText,
    agrees.fill .strong List.mem_cons_self]

/-- A cell is written alike. -/
theorem cellText {attrs : Attrs} (agrees : r.AgreesOn other (cellConstructs attrs))
    (content : String) : r.cellText attrs content = other.cellText attrs content := by
  unfold Renderer.cellText
  unfold cellConstructs at agrees
  -- Only a cell of a head is set in strong text.
  split
  · rename_i isHead
    rw [if_pos isHead] at agrees
    exact agrees.strong content
  · rfl

/-- A token outside of tables is written alike. -/
theorem construct {kind : TokenKind} {attrs : Attrs}
    (agrees : r.AgreesOn other (Token.construct? kind attrs).toList) (content : String) :
    r.construct kind attrs content = other.construct kind attrs content := by
  obtain ⟨fill, options, depthLimit?⟩ := r
  obtain ⟨fill', options', depthLimit?'⟩ := other
  obtain ⟨sameOptions, -, same⟩ := agrees
  obtain rfl : options = options' := sameOptions
  -- With the same choices each construct fills its template with the same values.
  cases kind with
  | blockCode =>
    simp only [Token.construct?] at same
    simp only [Renderer.construct, blockCode]
    cases language : listingLanguage? (attrs.text? "info") with
    | none => exact congrFun (same .blockCode (by simp [language])) _
    | some name => exact congrFun (same .blockCodeWithLang (by simp [language])) _
  | list =>
    simp only [Token.construct?] at same
    simp only [Renderer.construct, list]
    cases ordered : attrs.flag "ordered" with
    | true => exact congrFun (same .orderedList (by simp [ordered])) _
    | false => exact congrFun (same .unorderedList (by simp [ordered])) _
  | image =>
    -- The note in front of the figure is written without a template.
    let resolved := resolveImagePath options.imageRules ((attrs.text? "url").getD "")
    exact congrArg (formatNote resolved ++ ·) (congrFun (same .image List.mem_cons_self) _)
  | table | tableHead | tableBody | tableRow | tableCell | unknown => rfl
  | _ => exact congrFun (same _ List.mem_cons_self) _

/-- A part of a table is added alike. -/
theorem addPart {part : TablePart String} (agrees : r.AgreesOn other part.constructs)
    (table : TableAssembly) : r.addPart table part = other.addPart table part := by
  -- A row uses what its cells use, so that the renderers agree on each of these.
  cases part with
  | header attrs content => rw [Renderer.addPart, Renderer.addPart, agrees.strong]
  | row cells =>
    have texts : cells.map (fun cell => r.cellText cell.1 cell.2) =
        cells.map fun cell => other.cellText cell.1 cell.2 := by
      refine List.map_congr_left fun cell member => ?_
      exact (agrees.mono fun construct used =>
        List.mem_flatMap.mpr ⟨cell, member, used⟩).cellText cell.2
    rw [Renderer.addPart, Renderer.addPart, texts]

/-- A table is assembled and written alike. -/
theorem table {parts : List (TablePart String)}
    (agrees : r.AgreesOn other (.table :: parts.flatMap TablePart.constructs)) (number : Nat) :
    r.tableBlock number (parts.foldl r.addPart {}) =
      other.tableBlock number (parts.foldl other.addPart {}) := by
  -- The parts are written alike, each by the constructs that it uses.
  have assembled : parts.foldl r.addPart {} = parts.foldl other.addPart {} := by
    refine List.foldl_ext _ _ _ fun table part member => ?_
    exact (agrees.mono fun construct used =>
      List.mem_cons_of_mem _ (List.mem_flatMap.mpr ⟨part, member, used⟩)).addPart table
  rw [assembled, tableBlock, tableBlock, agrees.fill .table List.mem_cons_self]

/-- A token is written alike from the same texts. -/
theorem write {token : Token} (agrees : r.AgreesOn other token.constructs) (number : Nat)
    (texts : List String) :
    r.write number token.kind token.attrs (token.outline.refill texts) =
      other.write number token.kind token.attrs (token.outline.refill texts) := by
  cases outline : token.outline <;> rw [Token.constructs, outline] at agrees
  case leaf raw => exact agrees.construct raw
  case around content => exact agrees.construct _
  case sequence content => rfl
  case cell content => exact agrees.cellText _
  case table parts =>
    -- The parts with the texts filled in use what the parts of the token use.
    refine (agrees.mono ?_).table number
    exact List.cons_subset_cons _ (TablePart.constructs_refill_subset parts texts)

/-- Trees are rendered alike when each of them is. -/
theorem renderTokens_of_each {depth : Nat} {tokens : List Token}
    (each : ∀ token ∈ tokens, ∀ tables,
      r.renderToken depth tables token = other.renderToken depth tables token) (tables : Nat) :
    r.renderTokens depth tables tokens = other.renderTokens depth tables tokens := by
  rw [renderTokens_eq_thread, renderTokens_eq_thread, thread_congr each]

/-- A tree is rendered alike when the templates that it uses are the same. -/
theorem renderToken {limit : Nat} (limited : r.depthLimit? = some limit) {depth room : Nat}
    (level : limit - depth = room) {token : Token}
    (agrees : r.AgreesOn other (token.usedWithin room)) (tables : Nat) :
    r.renderToken depth tables token = other.renderToken depth tables token := by
  have limited' := agrees.depthLimit?.symm.trans limited
  -- By induction on the levels that are left; a tree for which there is none uses text only.
  induction room generalizing depth tables token with
  | zero =>
    rw [renderToken_of_no_room limited level, renderToken_of_no_room limited' level, agrees.text]
  | succ room ih =>
    have inside : r.innerTexts depth tables token = other.innerTexts depth tables token := by
      refine thread_congr (fun tokens member count => ?_) _
      refine renderTokens_of_each (fun below within tables => ?_) count
      have inner : below ∈ token.inner := List.mem_flatten.mpr ⟨tokens, member, within⟩
      exact ih (by omega) (agrees.mono fun construct used =>
        List.mem_append_right _ (List.mem_flatMap.mpr ⟨below, inner, used⟩)) tables
    -- What the token itself uses is told apart from what is used inside of it.
    have own := agrees.mono (List.subset_append_left ..)
    rw [r.renderToken_eq_write (flattens_of_room limited level),
      other.renderToken_eq_write (flattens_of_room limited' level), inside, own.write]

end Renderer.AgreesOn

/--
Rendering depends on the templates of the constructs that it uses and on no others: with two sets of
templates that differ for a construct that it does not use, it writes the same and counts the same
tables.
-/
theorem renderTokens_eq_of_unused (construct : Construct) {templates others : TemplateSet}
    (agree : ∀ other, other ≠ construct → templates.get other = others.get other)
    (options : RenderOptions) (depth tables : Nat) {tokens : List Token}
    (unused : construct ∉ tokens.flatMap (Token.usedWithin (maxDepth - depth))) :
    (Renderer.ofTemplates templates options).renderTokens depth tables tokens =
      (Renderer.ofTemplates others options).renderTokens depth tables tokens := by
  refine Renderer.AgreesOn.renderTokens_of_each (fun token member tables => ?_) tables
  -- The two sets agree on every construct that is used, as the other one is not.
  have agrees : (Renderer.ofTemplates templates options).AgreesOn
      (Renderer.ofTemplates others options) (token.usedWithin (maxDepth - depth)) := by
    refine ⟨rfl, rfl, fun other used => ?_⟩
    -- Only the construct that is not used may differ.
    have different : other ≠ construct := by
      rintro rfl
      exact unused (List.mem_flatMap.mpr ⟨token, member, used⟩)
    show (templates.get other).render = (others.get other).render
    rw [agree other different]
  exact agrees.renderToken rfl rfl tables

/-- A table uses strong for its header cells; without emphasis in them it does not use emphasis. -/
theorem renderTokens_eq_of_unused_emphasis :
    let tokens := [Token.parent .table
      [.parent .tableHead [.parent .tableCell [.ofText "a"]]]]
    let others := TemplateSet.builtin.set .emphasis ⟨[]⟩
    (.strong ∈ tokens.flatMap (Token.usedWithin (maxDepth - 0)) ∧
      .emphasis ∉ tokens.flatMap (Token.usedWithin (maxDepth - 0))) ∧
      (Renderer.ofTemplates .builtin {}).renderTokens 0 0 tokens =
        (Renderer.ofTemplates others {}).renderTokens 0 0 tokens := by
  intro tokens others
  -- The head is written in bold, and nothing in emphasis.
  have used : .strong ∈ tokens.flatMap (Token.usedWithin (maxDepth - 0)) ∧
      .emphasis ∉ tokens.flatMap (Token.usedWithin (maxDepth - 0)) := by decide
  refine ⟨used, renderTokens_eq_of_unused .emphasis (fun other different => ?_) {} 0 0 used.2⟩
  exact (if_neg different).symm

end Manuscript
