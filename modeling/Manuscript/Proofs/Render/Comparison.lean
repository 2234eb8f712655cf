import Manuscript.Proofs.Render.Sights

/-!
What is written of trees, compared with what is written without their unknown tokens. A relation
of texts that all constructs respect relates the two, under the condition that nothing is disturbed.
-/

namespace Manuscript

/-- Texts that are related one by one, each under a condition, under all of these. -/
inductive Each (Rel : Prop → String → String → Prop) :
    Prop → List String → List String → Prop where
  /-- No texts are related to none. -/
  | nil : Each Rel True [] []
  /-- The first texts are related, and so are the others. -/
  | cons {p q : Prop} {first other : String} {rest others : List String} :
      Rel p first other → Each Rel q rest others →
        Each Rel (p ∧ q) (first :: rest) (other :: others)

/-- As many texts are related as there are. -/
theorem Each.length_eq {Rel : Prop → String → String → Prop} {p : Prop}
    {texts others : List String} (each : Each Rel p texts others) :
    texts.length = others.length := by
  -- Both lists are built up together.
  induction each with
  | nil => rfl
  | cons _ _ ih => simp [ih]

/-- Single texts are related under their condition. -/
theorem Each.single {Rel : Prop → String → String → Prop} {p : Prop} {text other : String}
    (each : Each Rel p [text] [other]) : Rel p text other := by
  cases each with
  | cons here none =>
    cases none
    -- No other text adds a condition.
    rwa [and_true]

/--
A relation of texts under a condition that a renderer respects, of what is written without unknown
tokens to what is written with them.
-/
structure Comparison (r : Renderer) (Rel : Prop → String → String → Prop) : Prop where
  /-- Nothing is like nothing. -/
  nothing : Rel True "" ""
  /-- Texts one after another are compared one after another. -/
  append {p q : Prop} {front front' back back' : String} :
    Rel p front front' → Rel q back back' → Rel (p ∧ q) (front ++ back) (front' ++ back')
  /-- A construct is like itself. -/
  same (kind : TokenKind) (attrs : Attrs) (text : String) :
    Rel True (r.construct kind attrs text) (r.construct kind attrs text)
  /-- A construct that writes its content is compared by this. -/
  around {p : Prop} {kind : TokenKind} {content content' : String} (attrs : Attrs) :
    kind.isUnknown = false → kind.dropsContent = false → kind.inTable = false →
      Rel p content content' →
        Rel p (r.construct kind attrs content) (r.construct kind attrs content')
  /-- A cell is compared by its content. -/
  cell {p : Prop} {content content' : String} (attrs : Attrs) :
    Rel p content content' → Rel p (r.cellText attrs content) (r.cellText attrs content')
  /-- A table is compared by its number, which may be smaller, and by what is in its cells. -/
  table {p : Prop} {number number' : Nat} {parts : List (TablePart (List Token))}
    {texts texts' : List String} :
    number ≤ number' → texts'.length = (parts.flatMap TablePart.contents).length →
      Each Rel p texts texts' →
        Rel (¬ number < number' ∧ p)
          (r.tableBlock number ((TablePart.refill parts texts).foldl r.addPart {}))
          (r.tableBlock number' ((TablePart.refill parts texts').foldl r.addPart {}))
  /-- A tree that is written as its plain text is compared by this. -/
  flat (token : Token) :
    Rel (token.pruned.plainText = token.plainText) (r.text token.pruned.plainText)
      (r.text token.plainText)
  /-- Text is never like nothing. -/
  deleted (text : String) : Rel False "" (r.text text)

/-- Texts that are the same one by one are the same under all conditions. -/
theorem Each.eq {p : Prop} {texts others : List String}
    (each : Each (fun condition text other => condition → text = other) p texts others)
    (condition : p) : texts = others := by
  induction each with
  | nil => rfl
  -- The condition of all is that of the first and that of the others.
  | cons here _ ih => rw [here condition.1, ih condition.2]

/-- What is the same under a condition is respected by all constructs. -/
theorem comparison_eq (r : Renderer) :
    Comparison r fun condition text other => condition → text = other where
  nothing _ := rfl
  append front back both := by rw [front both.1, back both.2]
  same kind attrs text _ := rfl
  around attrs _ _ _ content condition := by rw [content condition]
  cell attrs content condition := by rw [content condition]
  -- The numbers of a table differ by nothing when no table was left out in front of it.
  table below _ each condition := by
    rw [Nat.le_antisymm below (Nat.not_lt.mp condition.1), each.eq condition.2]
  flat token condition := by rw [condition]
  deleted text := False.elim

/-- Where content is not written, constructs are the same whatever it is. -/
theorem Renderer.construct_of_dropped (r : Renderer) {kind : TokenKind}
    (dropped : kind.dropsContent = true) (attrs : Attrs) (content content' : String) :
    r.construct kind attrs content = r.construct kind attrs content' := by
  -- Four kinds write no content.
  cases kind with
  | linebreak | softbreak | thematicBreak | blankLine => rfl
  | _ => exact absurd dropped Bool.false_ne_true

/-- What is written of a construct is compared by what is inside of it, if this is written. -/
theorem Comparison.write_construct {r : Renderer} {Rel : Prop → String → String → Prop}
    (compares : Comparison r Rel) {room : Nat} {token : Token}
    (known : token.kind.isUnknown = false) (outside : token.kind.inTable = false)
    (outline : (∃ raw, token.outline = .leaf raw) ∨ token.outline = .around token.children)
    {shifted : Prop} {number number' : Nat} {texts texts' : List String}
    (content : token.outline.contents.length = 1 →
      Rel (UndisturbedBehind shifted (token.inner.flatMap (Token.sights room)))
        (texts.headD "") (texts'.headD "")) :
    Rel (UndisturbedBehind shifted (token.sights (room + 1)))
      (r.write number token.kind token.attrs (token.outline.refill texts))
      (r.write number' token.kind token.attrs (token.outline.refill texts')) := by
  -- A table would be in a table by this.
  have notTable : token.kind ≠ .table := by
    intro isTable
    rw [isTable] at outside
    exact Bool.false_ne_true outside.symm
  cases dropped : token.kind.dropsContent with
  | true =>
    -- What is inside is not written, so nothing of it can be seen.
    have seen : ∀ sight ∈ token.sights (room + 1), sight = .skipped := by
      rw [Token.sights_dropped dropped]
      exact fun sight member => Sight.isSkipped_iff.mp (List.mem_filter.mp member).2
    rw [eq_true (undisturbedBehind_skipped _ seen)]
    rcases outline with ⟨raw, outline⟩ | outline
    · rw [outline]
      exact compares.same token.kind token.attrs raw
    · rw [outline, Outline.refill, Outline.refill, Renderer.write, Renderer.write,
        r.construct_of_dropped dropped token.attrs (texts.headD "") (texts'.headD "")]
      exact compares.same token.kind token.attrs _
  -- What is inside is seen as it is, by what is written around it.
  | false =>
    rw [Token.sights_inner known dropped notTable]
    rcases outline with ⟨raw, outline⟩ | outline
    · have empty : token.inner = [] := by rw [Token.inner, outline]; rfl
      rw [empty, List.flatMap_nil, eq_true (undisturbedBehind_nil _), outline]
      exact compares.same token.kind token.attrs raw
    · have one : token.outline.contents.length = 1 := by rw [outline]; rfl
      rw [outline]
      exact compares.around token.attrs known dropped outside (content one)

/-- What is written along an outline is compared by the number and by what is inside. -/
theorem Comparison.write {r : Renderer} {Rel : Prop → String → String → Prop}
    (compares : Comparison r Rel) {room : Nat} {token : Token}
    (known : token.kind.isUnknown = false) {fewer tables : Nat} (shift : fewer ≤ tables)
    {texts texts' : List String} (size : texts'.length = token.outline.contents.length)
    (inside : Each Rel
      (UndisturbedBehind (fewer < tables) (token.inner.flatMap (Token.sights room))) texts texts') :
    Rel (UndisturbedBehind (fewer < tables) (token.sights (room + 1)))
      (r.write (fewer + 1) token.kind token.attrs (token.outline.refill texts))
      (r.write (tables + 1) token.kind token.attrs (token.outline.refill texts')) := by
  -- All outlines but those of tables have at most one content.
  have content (one : token.outline.contents.length = 1) : Rel
      (UndisturbedBehind (fewer < tables) (token.inner.flatMap (Token.sights room)))
      (texts.headD "") (texts'.headD "") := by
    obtain ⟨text', only'⟩ := List.length_eq_one_iff.mp (size.trans one)
    obtain ⟨text, only⟩ := List.length_eq_one_iff.mp (inside.length_eq.trans (size.trans one))
    subst only only'
    exact inside.single
  rcases token.outline_cases with
    ⟨isTable, outline⟩ | ⟨part, notTable, outline⟩ | ⟨outside, outline⟩
  · rw [outline] at size
    -- The number of a table is met in front of what is inside of it.
    have table := compares.table (Nat.add_le_add_right shift 1) size inside
    rw [Nat.add_lt_add_iff_right] at table
    rw [Token.sights_table isTable, undisturbedBehind_number, outline]
    exact table
  · rw [Token.sights_inner known (TokenKind.written_of_inTable part) notTable]
    -- A part of a table is written as what is inside, and a cell perhaps in bold.
    rcases outline with outline | outline
    · rw [outline]
      exact content (by rw [outline]; rfl)
    · rw [outline]
      exact compares.cell token.attrs (content (by rw [outline]; rfl))
  · exact compares.write_construct known outside outline content

namespace Renderer

/-- Trees give related texts without and with their unknown tokens, where they are rendered. -/
def Relates (r : Renderer) (Rel : Prop → String → String → Prop) (depth room : Nat)
    (tokens : List Token) : Prop :=
  ∀ fewer tables, fewer ≤ tables →
    Rel (UndisturbedBehind (fewer < tables) (tokens.flatMap (Token.sights room)))
      (r.renderTokens depth fewer (Token.prunedAll tokens)).1
      (r.renderTokens depth tables tokens).1

variable {r : Renderer} {limit : Nat} (limited : r.depthLimit? = some limit)

include limited

/-- Numbers stay or become shifted by the tables in unknown tokens. -/
theorem shift_renderTokens {depth room : Nat} (level : limit - depth = room) (tokens : List Token)
    {fewer tables : Nat} (shift : fewer ≤ tables) :
    (r.renderTokens depth fewer (Token.prunedAll tokens)).2 ≤
        (r.renderTokens depth tables tokens).2 ∧
      ((r.renderTokens depth fewer (Token.prunedAll tokens)).2 <
          (r.renderTokens depth tables tokens).2 ↔
        fewer < tables ∨ .skipped ∈ tokens.flatMap (Token.sights room)) := by
  -- Both counts are what they were before plus the tables that are reached on each side.
  have counts := Token.length_tablesWithin room tokens
  have present : 0 < (tokens.flatMap (Token.sights room)).countP (·.isSkipped) ↔
      .skipped ∈ tokens.flatMap (Token.sights room) := by
    simp [List.countP_pos_iff]
  rw [r.renderTokens_count limited level, r.renderTokens_count limited level, ← present]
  omega

variable {Rel : Prop → String → String → Prop}

/-- Lists of trees are compared one by one. -/
theorem relates_contents {depth room : Nat} (level : limit - depth = room)
    (each : ∀ tokens, r.Relates Rel depth room tokens) (contents : List (List Token))
    {fewer tables : Nat} (shift : fewer ≤ tables) :
    Each Rel
      (UndisturbedBehind (fewer < tables)
        (contents.flatMap fun tokens => tokens.flatMap (Token.sights room)))
      (thread (r.renderTokens depth) fewer (contents.map Token.prunedAll)).1
      (thread (r.renderTokens depth) tables contents).1 := by
  -- What is left out in front shifts the count of all that comes behind.
  induction contents generalizing fewer tables with
  | nil =>
    rw [List.flatMap_nil, eq_true (undisturbedBehind_nil _)]
    exact .nil
  | cons tokens rest ih =>
    -- The numbers that are left out here are missing from there on.
    obtain ⟨shiftNext, shifted⟩ := shift_renderTokens limited level tokens shift
    rw [List.flatMap_cons, undisturbedBehind_append, ← shifted]
    exact .cons (each tokens fewer tables shift) (ih shiftNext)

variable (compares : Comparison r Rel)

include compares

/-- Trees one after another are compared when each of them is. -/
theorem relates_of_each {depth room : Nat} (level : limit - depth = room)
    (each : ∀ token, r.Relates Rel depth room [token]) (tokens : List Token) :
    r.Relates Rel depth room tokens := by
  intro fewer tables shift
  -- The shift behind the first tree is the one in front of the others.
  induction tokens generalizing fewer tables with
  | nil =>
    rw [List.flatMap_nil, eq_true (undisturbedBehind_nil _), Token.prunedAll]
    exact compares.nothing
  | cons token rest ih =>
    obtain ⟨shiftNext, shifted⟩ := shift_renderTokens limited level [token] shift
    rw [← List.singleton_append, Token.prunedAll_append, renderTokens_append, renderTokens_append,
      List.flatMap_append, undisturbedBehind_append, ← shifted]
    exact compares.append (each token fewer tables shift) (ih _ _ shiftNext)

/-- A tree at the limit is compared by its plain text. -/
theorem relates_of_no_room {depth : Nat} (noRoom : limit - depth = 0) (token : Token) :
    r.Relates Rel depth 0 [token] := by
  -- Without room no number is given, so that the counts do not matter.
  intro fewer tables _
  rw [renderTokens_singleton, renderToken_of_no_room limited noRoom, List.flatMap_singleton,
    Token.sights, undisturbedBehind_flat]
  -- A known tree stays and is compared by its text; an unknown one leaves nothing behind.
  cases known : token.kind.isUnknown with
  | true =>
    have seen : (Sight.flat token).Kept = False := by simp [Sight.Kept, known]
    rw [seen, Token.prunedAll_cons_unknown known]
    exact compares.deleted token.plainText
  | false =>
    have kept : (Sight.flat token).Kept = (token.pruned.plainText = token.plainText) := by
      simp [Sight.Kept, known]
    rw [kept, Token.prunedAll_cons_known known, Token.prunedAll, renderTokens_singleton,
      renderToken_of_no_room limited noRoom]
    exact compares.flat token

/-- An unknown tree above the limit is written as nothing, as if it were not there. -/
theorem relates_unknown {depth room : Nat} (level : limit - depth = room + 1) {token : Token}
    (unknown : token.kind.isUnknown = true) : r.Relates Rel depth (room + 1) [token] := by
  intro fewer tables _
  -- Its content is rendered, but only counted.
  have nothing : (r.renderToken depth tables token).1 = "" := by
    rw [r.renderToken_eq_write (flattens_of_room limited level)]
    obtain ⟨kind, raw?, children?, attrs⟩ := token
    cases kind with
    | unknown name => cases raw? <;> rfl
    | _ => exact absurd unknown Bool.false_ne_true
  rw [renderTokens_singleton, nothing, List.flatMap_singleton, Token.sights_unknown unknown,
    eq_true (undisturbedBehind_skipped _ fun sight member => List.eq_of_mem_replicate member),
    Token.prunedAll_cons_unknown unknown]
  exact compares.nothing

/-- A known tree above the limit is compared when all trees one level below are. -/
theorem relates_known {depth room : Nat} (level : limit - depth = room + 1) {token : Token}
    (known : token.kind.isUnknown = false)
    (below : ∀ tokens, r.Relates Rel (depth + 1) room tokens) :
    r.Relates Rel depth (room + 1) [token] := by
  intro fewer tables shift
  -- Both trees have one outline, filled with texts that are compared one level below.
  have shallow := flattens_of_room limited level
  have inside := relates_contents limited (show limit - (depth + 1) = room by omega) below
    token.outline.contents (Nat.add_le_add_right shift token.ownNumbers)
  rw [Nat.add_lt_add_iff_right, ← Token.inner_flatMap] at inside
  rw [renderTokens_singleton, Token.prunedAll_cons_known known, Token.prunedAll,
    renderTokens_singleton, List.flatMap_singleton, r.renderToken_eq_write shallow,
    r.renderToken_eq_write shallow, Token.kind_pruned, Token.attrs_pruned, Token.outline_pruned,
    Outline.refill_map, innerTexts, Token.outline_pruned, Outline.contents_map, Token.ownNumbers,
    Token.kind_pruned, ← Token.ownNumbers]
  exact compares.write known shift (length_thread ..) inside

/-- Trees are compared wherever they are rendered. -/
theorem relates (depth room : Nat) (level : limit - depth = room) (tokens : List Token) :
    r.Relates Rel depth room tokens := by
  -- The room shrinks by one with every level, and is used up at the limit.
  induction room generalizing depth tokens with
  | zero =>
    exact relates_of_each limited compares level (relates_of_no_room limited compares level) tokens
  | succ room ih =>
    refine relates_of_each limited compares level (fun token => ?_) tokens
    cases known : token.kind.isUnknown with
    | true => exact relates_unknown limited compares level known
    | false => exact relates_known limited compares level known (ih (depth + 1) (by omega))

end Renderer

end Manuscript
