import Manuscript.Proofs.Json.Yields
import Manuscript.Proofs.Render.Cut
import Manuscript.Proofs.Token.Decoding
import Manuscript.Proofs.Token.Levels
import Manuscript.Tokenizer

/-!
How deeply tokens that are read from JSON are nested. Each of them takes two levels of the text that
it is read from, one for the list that it stands in and one for itself, so that the limit on the
nesting of the text keeps the tree far above the level where rendering gives it up.
-/

namespace Manuscript

open Json

namespace Token

/-- A tree has a number of levels at most. -/
def HasLevels (bound : Nat) (token : Token) : Prop :=
  ∀ levels found, token.Holds levels found → levels < bound

/-- A token has one level more than its children. -/
theorem hasLevels_succ {bound : Nat} {token : Token}
    (below : ∀ child ∈ token.children, child.HasLevels bound) : token.HasLevels (bound + 1) := by
  intro levels found held
  -- The token itself stands at the top, and all others stand below one of its children.
  cases levels with
  | zero => exact Nat.succ_pos bound
  | succ levels =>
    obtain ⟨child, member, deeper⟩ := held
    exact Nat.succ_lt_succ (below child member levels found deeper)

section Rendered

variable {token below found : Token}

/-- A child stands one level below its token. -/
theorem holds_child (member : below ∈ token.children) : token.Holds 1 below := ⟨below, member, rfl⟩

/-- A cell of some tokens is one of them. -/
theorem mem_of_mem_cellsOf {tokens : List Token} (member : below ∈ cellsOf tokens) :
    below ∈ tokens := (List.mem_filter.mp member).1

/-- The tokens in the cells of a section stand below it. -/
theorem exists_holds_of_mem_sectionParts {part : TablePart (List Token)} {contents : List Token}
    (among : part ∈ token.sectionParts) (within : contents ∈ part.contents)
    (member : below ∈ contents) : ∃ levels, token.Holds levels below := by
  unfold sectionParts at among
  split at among
  · -- A cell of the head stands in it or in one of its rows.
    obtain ⟨cell, inHead, rfl⟩ := List.mem_map.mp among
    obtain rfl : contents = cell.children := List.mem_singleton.mp within
    obtain ⟨child, isChild, held⟩ := List.mem_flatMap.mp (mem_of_mem_cellsOf inHead)
    split at held
    · exact ⟨3, .of_child isChild (.of_child held (holds_child member))⟩
    · obtain rfl : cell = child := List.mem_singleton.mp held
      exact ⟨2, .of_child isChild (holds_child member)⟩
  · -- A row of the body is the row of the cells of some child.
    obtain ⟨cells, inBody, rfl⟩ := List.mem_map.mp among
    obtain ⟨row, isRow, rfl⟩ := List.mem_map.mp (List.mem_filter.mp inBody).1
    obtain ⟨held, inRow, rfl⟩ := List.mem_map.mp within
    obtain ⟨cell, isCell, rfl⟩ := List.mem_map.mp inRow
    have isChild := (List.mem_filter.mp isRow).1
    exact ⟨3, .of_child isChild (.of_child (mem_of_mem_cellsOf isCell) (holds_child member))⟩
  · cases among

/-- What is rendered inside of a token stands below it, if not right below it. -/
theorem exists_holds_of_mem_inner (member : below ∈ token.inner) :
    ∃ levels, token.Holds (levels + 1) below := by
  obtain ⟨contents, among, held⟩ := List.mem_flatten.mp member
  -- Only the cells of tables are further down than the children of the token.
  have single (only : token.outline.contents = [token.children]) :
      ∃ levels, token.Holds (levels + 1) below := by
    rw [only] at among
    obtain rfl := List.mem_singleton.mp among
    exact ⟨0, holds_child held⟩
  rcases token.outline_cases with ⟨-, shape⟩ | ⟨-, -, shape | shape⟩ | ⟨-, ⟨raw, shape⟩ | shape⟩
  · -- A table leads through a section to one of its cells.
    rw [shape] at among
    obtain ⟨part, inTable, within⟩ := List.mem_flatMap.mp among
    obtain ⟨sections, isChild, ofSection⟩ := List.mem_flatMap.mp inTable
    obtain ⟨levels, inSection⟩ := exists_holds_of_mem_sectionParts ofSection within held
    exact ⟨levels, .of_child isChild inSection⟩
  · exact single (by rw [shape]; rfl)
  · exact single (by rw [shape]; rfl)
  · rw [shape] at among
    cases among
  · exact single (by rw [shape]; rfl)

/-- Rendering goes down a level no sooner than the tree does. -/
theorem exists_holds_of_reaches {levels : Nat} (reached : token.Reaches levels found) :
    ∃ more, token.Holds (levels + more) found := by
  -- A step of rendering is at least one step down the tree, so the steps that were left out add up.
  induction levels generalizing token with
  | zero => exact ⟨0, reached⟩
  | succ levels ih =>
    obtain ⟨below, member, further⟩ := reached
    obtain ⟨upper, first⟩ := exists_holds_of_mem_inner member
    obtain ⟨lower, second⟩ := ih further
    have whole := first.trans second
    have same : levels + 1 + (upper + lower) = upper + 1 + (levels + lower) := by omega
    exact ⟨upper + lower, by rwa [same]⟩

/-- In a tree of some levels rendering reaches no further ones. -/
theorem HasLevels.not_reaches {bound levels : Nat} (shallow : token.HasLevels bound)
    (beyond : bound ≤ levels) (found : Token) : ¬ token.Reaches levels found := by
  -- What is reached stands in the tree at least as far down.
  intro reached
  obtain ⟨more, held⟩ := exists_holds_of_reaches reached
  have := shallow _ found held
  omega

end Rendered

end Token

open Token

section Readers

variable {α β : Type} {bound depth : Nat}

/-- What is read where nothing may stand has the property of what is read where something does. -/
theorem yields_readNullable {property : α → Prop} {reader : Reader α}
    (yields : reader.Yields property) :
    (readNullable reader).Yields fun value? => ∀ value, value? = some value → property value := by
  refine Reader.Yields.behindBlanks fun text read ok => ?_
  -- Where something stands, the reader gives what it gives by itself.
  have present : (Reader.map some reader).Yields
      fun value? => ∀ value, value? = some value → property value :=
    Reader.Yields.map fun text read ok value same => Option.some.inj same ▸ yields text read ok
  cases text with
  | nil => exact present _ read ok
  | cons c rest =>
    simp only at ok
    split at ok
    · -- The word for nothing gives no value.
      intro value same
      simp only [readWordAs] at ok
      split at ok
      · cases ok
      · cases ok
        cases same
    · exact present _ read ok

/-- A list of what is wanted has what the reader of lists gives. -/
theorem yields_readListOf {property : List α → Prop} {list : Reader (List α)}
    (yields : list.Yields property) : (readListOf list).Yields property := by
  refine Reader.Yields.behindBlanks fun text read ok => ?_
  cases text with
  | nil => cases ok
  | cons c rest =>
    simp only at ok
    -- A list starts with a bracket, and nothing else is read as one.
    split at ok
    · exact yields _ read ok
    · cases ok

/-- A token has what the readers of its two forms give. -/
theorem yields_readTokenWith {property : Token → Prop} {list object : Reader Token}
    (ofList : list.Yields property) (ofObject : object.Yields property) :
    (readTokenWith list object).Yields property := by
  refine Reader.Yields.behindBlanks fun text read ok => ?_
  cases text with
  | nil => cases ok
  | cons c rest =>
    simp only at ok
    -- The first character decides which form is read.
    split at ok
    · exact ofList _ read ok
    split at ok
    · exact ofObject _ read ok
    · cases ok

/-- A bracket in front does not matter for what is read. -/
theorem yields_behindBracket {property : α → Prop} {reader : Reader α}
    (yields : reader.Yields property) : (behindBracket reader).Yields property := by
  intro text read ok
  -- The character in front is dropped before anything is read.
  cases text with
  | nil => cases ok
  | cons c rest =>
    cases inner : reader rest with
    | error fault => simp [behindBracket, inner, Except.map] at ok
    | ok found =>
      simp only [behindBracket, inner, Except.map, Except.ok.injEq] at ok
      subst ok
      exact yields _ found inner

/-- A slot that may be empty gives what stands in it, with the property of that. -/
theorem yields_readSlot {property : α → Prop} {item : Reader α} (yields : item.Yields property)
    (first : Bool) :
    (readSlot first item).Yields fun value? => ∀ value, value? = some value → property value := by
  intro text read ok value same
  simp only [readSlot] at ok
  -- A slot at the end of a list is empty, and any other holds an item.
  split at ok
  · cases ok
  · cases ok
    cases same
  · split at ok
    · cases ok
    · rename_i found _ _ inner
      cases ok
      rw [← Option.some.inj same]
      exact yields _ _ inner

/-- What is finished with a slot is what there is without it, or what follows from its value. -/
theorem yields_finish {property : β → Prop} {given : α → Prop} {slot : Reader (Option α)}
    {absent : β} {present : α → Reader β}
    (ofSlot : slot.Yields fun value? => ∀ value, value? = some value → given value)
    (without : property absent) (ofValue : ∀ value, given value → (present value).Yields property) :
    (finish slot absent present).Yields property := by
  intro text read ok
  simp only [finish] at ok
  -- The three ways to finish: a fault, an empty slot, and a slot with a value.
  split at ok
  · cases ok
  · cases ok
    exact without
  · rename_i value rest _ found
    have held := ofSlot _ _ found value rfl
    split at ok
    · cases ok
    · rename_i result final _ inner
      have finished := ofValue value held _ _ inner
      cases ok
      exact finished

/-- The children that were read so far are trees of a number of levels. -/
def FieldsHaveLevels (bound : Nat) (fields : TokenFields) : Prop :=
  ∀ list, fields.children? = some (some list) → ∀ child ∈ list, child.HasLevels bound

variable {children : Reader (List Token)} {attrs : Reader Attrs}

/-- Each field keeps the children that were read, and the field of the children has such ones. -/
theorem yields_tokenField
    (below : children.Yields fun list => ∀ child ∈ list, child.HasLevels bound)
    {fields : TokenFields} {key : String} {reader : Reader TokenFields}
    (kept : FieldsHaveLevels bound fields)
    (given : tokenField children attrs fields key = .ok reader) :
    reader.Yields (FieldsHaveLevels bound) := by
  -- Four fields are known, each of which may be refused, and all others leave everything as it is.
  have same {γ : Type} {other : Reader γ} {change : γ → TokenFields}
      (keeps : ∀ value, (change value).children? = fields.children?) :
      (Reader.map change other).Yields (FieldsHaveLevels bound) :=
    Reader.Yields.map fun _ _ _ list found => kept list ((keeps _).symm.trans found)
  unfold tokenField at given
  split at given
  · split at given <;> cases given
    exact same fun _ => rfl
  split at given
  · split at given <;> cases given
    exact same fun _ => rfl
  split at given
  · split at given <;> cases given
    -- The list of the children is what the levels are counted in.
    refine Reader.Yields.map fun text read ok list found => ?_
    exact yields_readNullable below text read ok list (Option.some.inj found)
  split at given
  · split at given <;> cases given
    exact same fun _ => rfl
  · cases given
    exact same fun _ => rfl

/-- A token that is written as an object has one level more than its children. -/
theorem yields_readTokenObject
    (below : children.Yields fun list => ∀ child ∈ list, child.HasLevels bound) :
    (readTokenObject children attrs).Yields (HasLevels (bound + 1)) := by
  -- At first there are no children, so that their levels do not count yet.
  have none : FieldsHaveLevels bound {} := nofun
  have gathered : (readObject (tokenField children attrs) {}).Yields (FieldsHaveLevels bound) :=
    Reader.yields_readObject (fun _ _ _ kept given => yields_tokenField below kept given) none
  intro text read ok
  simp only [readTokenObject] at ok
  split at ok
  · cases ok
  · rename_i fields rest _ inner
    have levels := gathered _ _ inner
    split at ok
    · rename_i token made
      cases ok
      obtain ⟨kind, -, rfl⟩ := Option.map_eq_some_iff.mp made
      refine hasLevels_succ fun child member => ?_
      -- Without a list of children there are none.
      obtain ⟨kind?, raw?, children?, attrs?⟩ := fields
      obtain - | - | list := children?
      · cases member
      · cases member
      · exact levels list rfl child member
    · cases ok

/-- A token that is written as a list has one level more than its children. -/
theorem yields_readTokenItems
    (below : children.Yields fun list => ∀ child ∈ list, child.HasLevels bound) :
    (readTokenItems children attrs).Yields (HasLevels (bound + 1)) := by
  -- A list may end before the slot of the children.
  have childless {kind : TokenKind} {raw? : Option String} {attrs : Attrs} :
      (Token.mk kind raw? none attrs).HasLevels (bound + 1) := hasLevels_succ nofun
  have anything {γ : Type} (reader : Reader γ) : reader.Yields fun _ => True :=
    fun _ _ _ => trivial
  intro text read ok
  simp only [readTokenItems] at ok
  split at ok
  · cases ok
  · cases ok
  · split at ok
    · cases ok
    · rename_i kind rest _ _ _ token final _ tail
      -- The slot of the children is the only one that matters.
      have finished := yields_finish (yields_readSlot (anything (readNullable readText)) false)
        childless (fun raw? _ => ?_) _ _ tail
      · cases ok
        exact finished
      refine yields_finish (yields_readSlot (yields_readNullable below) false) childless
        fun children? levels => ?_
      have levelled {attrs : Attrs} :
          (Token.mk kind raw? children? attrs).HasLevels (bound + 1) := by
        refine hasLevels_succ fun child member => ?_
        obtain - | list := children?
        · cases member
        · exact levels list rfl child member
      -- The attributes change nothing of that.
      exact yields_finish (yields_readSlot (anything _) false) levelled fun attrs _ =>
        Reader.Yields.map fun _ _ _ => levelled

/-- Two levels of the text are needed for each level of the tree. -/
theorem yields_readTokens :
    ∀ depth, (readTokens depth).Yields fun tokens => ∀ token ∈ tokens, token.HasLevels (depth / 2)
  | 0 => yields_readListOf (Reader.yields_tooDeep _)
  | 1 => yields_readListOf <| Reader.Yields.readList <|
      yields_readTokenWith (Reader.yields_tooDeep _) (Reader.yields_tooDeep _)
  | depth + 2 => by
    -- The list takes one level of the text, and the token in it one more.
    have below := yields_readTokens depth
    have half : (depth + 2) / 2 = depth / 2 + 1 := by omega
    rw [half]
    exact yields_readListOf <| Reader.Yields.readList <|
      yields_readTokenWith (yields_behindBracket (yields_readTokenItems below))
        (yields_readTokenObject below)

end Readers

/-- A tree of tokens from JSON has less than 64 levels. -/
theorem hasLevels_of_tokensOfJson {source : String} {tokens : List Token}
    (accepted : tokensOfJson source = .ok tokens) :
    ∀ token ∈ tokens, token.HasLevels (nestingLimit / 2) := by
  unfold tokensOfJson at accepted
  -- The whole text is one list of tokens, with blanks behind it at most.
  split at accepted
  · rename_i tokens' whole
    cases accepted
    unfold readWhole at whole
    split at whole
    · cases whole
    · rename_i value rest _ read
      split at whole
      · cases whole
        -- The list at the top is read with all the nesting that is allowed.
        exact yields_readTokens nestingLimit _ _ read
      · cases whole
  · cases accepted

/--
Tokens from JSON are nested 64 levels deep at most, so that rendering them reaches no token where
trees are flattened, and renders them as it would without a depth limit.
-/
theorem renderTokens_of_json {source : String} {tokens : List Token}
    (accepted : Tokenizer.json.tokenize source = .ok tokens) :
    (∀ token ∈ tokens, ∀ levels found, token.Holds levels found → levels + 1 ≤ 64) ∧
      ∀ (templates : TemplateSet) (options : RenderOptions) (tables : Nat),
        let r := Renderer.ofTemplates templates options
        (∀ token ∈ tokens, ∀ levels found, token.Reaches levels found →
            r.flattens levels = false) ∧
          r.renderTokens 0 tables tokens = r.unlimited.renderTokens 0 tables tokens := by
  have shallow := hasLevels_of_tokensOfJson accepted
  have half : nestingLimit / 2 = 63 := rfl
  refine ⟨fun token member levels found held => ?_, fun templates options tables => ⟨?_, ?_⟩⟩
  · -- A token takes two levels of the text: one for itself and one for its list.
    have := shallow token member levels found held
    omega
  · intro token member levels found reached
    -- A level that is reached is one of the tree, and all of these are below the limit.
    obtain ⟨more, held⟩ := exists_holds_of_reaches reached
    have := shallow token member _ found held
    have limit : maxDepth = 256 := rfl
    have above : ¬ maxDepth ≤ levels := by omega
    simpa [Renderer.flattens, Renderer.ofTemplates] using above
  · -- Where the limit is never met, it makes no difference.
    simp only [Renderer.renderTokens_eq_thread]
    rw [thread_congr fun token member count =>
      (Renderer.renderToken_depth_limit templates options count token).2
        ((shallow token member).not_reaches (by decide))]

/-- Quotes in each other, with a number of them around the innermost one. -/
def quotes : Nat → Token
  | 0 => .bare .blockQuote
  | levels + 1 => .parent .blockQuote [quotes levels]

/-- Quotes as they are written. -/
def quotesForm : Nat → Form
  | 0 => .object [(.ofString "type", .string (.ofString "block_quote"))]
  | levels + 1 =>
    .object [(.ofString "type", .string (.ofString "block_quote")),
      (.ofString "children", .array [quotesForm levels])]

/-- The text of quotes, without a blank. -/
def quotesText (levels : Nat) : String :=
  String.ofList (spaced (fun _ => []) (Form.array [quotesForm levels]).lexemes)

/-- Quotes are written so. -/
theorem writtenAs_quotesForm (levels : Nat) : (quotes levels).WrittenAs (quotesForm levels) := by
  have named := StringForm.exists_means_of_mem_zip
  -- The innermost quote has a type only, and each other one has a list of one child as well.
  induction levels with
  | zero =>
    exact ⟨_, rfl, ⟨named ["type"] [_], ⟨_, "block_quote", rfl, StringForm.means_ofString _, rfl⟩,
      .inl rfl, .inl ⟨rfl, rfl⟩⟩, .inl rfl⟩
  | succ levels ih =>
    exact ⟨_, rfl, ⟨named ["type", "children"] [_, _],
      ⟨_, "block_quote", rfl, StringForm.means_ofString _, rfl⟩, .inl rfl, .inl ⟨rfl, rfl⟩⟩,
      [quotesForm levels], rfl, _, _, rfl, ih, rfl⟩

/-- Each quote takes two levels of the text. -/
theorem keptNesting_quotesForm (levels : Nat) :
    (quotesForm levels).keptNesting = 2 * levels + 1 := by
  induction levels with
  | zero => decide
  -- Only the children of a token count as a level, its type does not.
  | succ levels ih =>
    have isType : ¬ (StringForm.ofString "type").Means "children" := by decide
    have noAttrs : ¬ (StringForm.ofString "type").Means "attrs" := by decide
    have isChildren : (StringForm.ofString "children").Means "children" := by decide
    simp only [quotesForm, Form.keptNesting, Form.keptMemberNesting, Form.keptItemNesting, isType,
      noAttrs, isChildren, if_true, if_false, ih]
    omega

/-- As many quotes are read as the limit leaves room for. -/
theorem tokenize_quotesText {levels : Nat} (room : levels ≤ 62) :
    Tokenizer.json.tokenize (quotesText levels) = .ok [quotes levels] := by
  have written : Token.AreWrittenAs [quotes levels] [quotesForm levels] :=
    ⟨_, _, rfl, writtenAs_quotesForm levels, rfl⟩
  -- The list around all quotes is one more level.
  have bounded : (Form.array [quotesForm levels]).keptNesting ≤ nestingLimit := by
    simp only [Form.keptNesting, Form.keptItemNesting, keptNesting_quotesForm, nestingLimit]
    omega
  have whole := readWhole_of_takes (Token.takes_tokens written bounded) (fun _ => []) []
  rw [gapText, List.map_nil, List.append_nil] at whole
  change tokensOfJson _ = _
  simp only [tokensOfJson, quotesText, String.toList_ofList, whole]

/-- The deepest quotes that are read are rendered as if there were no limit. -/
theorem renderTokens_of_json_quotes :
    Tokenizer.json.tokenize (quotesText 62) = .ok [quotes 62] ∧
      (∀ token ∈ [quotes 62], ∀ levels found, token.Holds levels found → levels + 1 ≤ 64) ∧
      ∀ (templates : TemplateSet) (options : RenderOptions) (tables : Nat),
        let r := Renderer.ofTemplates templates options
        (∀ token ∈ [quotes 62], ∀ levels found, token.Reaches levels found →
            r.flattens levels = false) ∧
          r.renderTokens 0 tables [quotes 62] = r.unlimited.renderTokens 0 tables [quotes 62] :=
  have accepted := tokenize_quotesText (Nat.le_refl 62)
  ⟨accepted, renderTokens_of_json accepted⟩

end Manuscript
