import Manuscript.Proofs.Render.Walk
import Mathlib.Data.List.Flatten

/-!
The numbers of tables: every table that rendering reaches takes the next number in the order of
the document, an outer table before those inside of it, and hands it to its template.
-/

namespace Manuscript

namespace Token

/-- The tables that are reached in a tree, an outer table before those inside of it. -/
def tablesWithin : Nat → Token → List Token
  | 0, _ => []
  | room + 1, token =>
    (if token.kind = .table then [token] else []) ++ token.inner.flatMap (tablesWithin room)

mutual

/-- All tokens of a tree in the order of the document. -/
def preorder : Token → List Token
  | ⟨kind, raw?, none, attrs⟩ => [⟨kind, raw?, none, attrs⟩]
  | ⟨kind, raw?, some children, attrs⟩ => ⟨kind, raw?, some children, attrs⟩ :: preorderAll children

/-- All tokens of trees one after another. -/
def preorderAll : List Token → List Token
  | [] => []
  | token :: rest => token.preorder ++ preorderAll rest

end

/-- A token comes before all tokens inside of it. -/
theorem preorder_eq (token : Token) : token.preorder = token :: preorderAll token.children := by
  obtain ⟨kind, raw?, children?, attrs⟩ := token
  cases children? <;> simp [preorder, preorderAll, children]

/-- Trees come one after another. -/
theorem preorderAll_eq (tokens : List Token) : preorderAll tokens = tokens.flatMap preorder := by
  induction tokens with
  | nil => rfl
  | cons token rest ih => simp [preorderAll, ih]

end Token

/-- A filling of the template of a table: whose it is, and the values that the template gets. -/
structure TableFill where
  /-- The table. -/
  token : Token
  /-- The values. -/
  values : Values

/-- A text with the fillings of table templates that went into it, in the order of the document. -/
structure Traced where
  /-- The text. -/
  text : String
  /-- The fillings. -/
  fills : List TableFill

/-- Texts one after another, with all that went into them. -/
def Traced.join (pieces : List Traced) : Traced :=
  ⟨String.join (pieces.map (·.text)), pieces.flatMap (·.fills)⟩

namespace Renderer

variable (r : Renderer)

/-- The values that the template of a table gets. -/
def tableValues (number : Nat) (table : TableAssembly) : Values :=
  [(.counter, toString number), (.alignment, table.alignmentSpec), (.header, table.headerLine),
   (.body, table.bodyLines)]

/-- A token written along its outline, with the filling that this takes when it is a table. -/
def writeTraced (number : Nat) (token : Token) : Outline String → Traced
  | .table parts =>
    let values := tableValues number (parts.foldl r.addPart {})
    ⟨r.fill .table values, [⟨token, values⟩]⟩
  | outline => ⟨r.write number token.kind token.attrs outline, []⟩

/--
Rendering with a record of the fillings of table templates, where a number of levels is left up to
the depth limit.
-/
def traceToken : Nat → Nat → Token → Traced × Nat
  | 0, tables, token => (⟨r.text token.plainText, []⟩, tables)
  | room + 1, tables, token =>
    let (inside, after) :=
      thread
        (fun tables tokens =>
          let (pieces, after) := thread (traceToken room) tables tokens
          (Traced.join pieces, after))
        (tables + token.ownNumbers) token.outline.contents
    let own := r.writeTraced (tables + 1) token (token.outline.refill (inside.map (·.text)))
    (⟨own.text, own.fills ++ inside.flatMap (·.fills)⟩, after)

/-- Tokens one after another, with a record of the fillings of table templates. -/
def traceTokens (room tables : Nat) (tokens : List Token) : Traced × Nat :=
  let (pieces, after) := thread (r.traceToken room) tables tokens
  (Traced.join pieces, after)

/-- Recording what is filled does not change what is written along an outline. -/
theorem text_writeTraced (number : Nat) (token : Token) (outline : Outline String) :
    (r.writeTraced number token outline).text =
      r.write number token.kind token.attrs outline := by
  cases outline <;> rfl

/-- Without the record, tokens are rendered like each of them. -/
theorem renderTokens_eq_traceTokens {depth room : Nat} {tokens : List Token}
    (same : ∀ token ∈ tokens, ∀ tables,
      r.renderToken depth tables token =
        ((r.traceToken room tables token).1.text, (r.traceToken room tables token).2))
    (tables : Nat) :
    r.renderTokens depth tables tokens =
      ((r.traceTokens room tables tokens).1.text, (r.traceTokens room tables tokens).2) := by
  -- What holds of each token holds of them one after another.
  rw [renderTokens_eq_thread, thread_forget same]
  rfl

/-- Without the record, a token is rendered as ever. -/
theorem renderToken_eq_traceToken {limit depth room : Nat}
    (limited : r.depthLimit? = some limit) (level : limit - depth = room) (tables : Nat)
    (token : Token) :
    r.renderToken depth tables token =
      ((r.traceToken room tables token).1.text, (r.traceToken room tables token).2) := by
  -- The record is kept beside the text and never read, so each level gives the same texts.
  induction room generalizing depth tables token with
  | zero =>
    rw [renderToken_of_no_room limited level]
    rfl
  | succ room ih =>
    have texts : r.innerTexts depth tables token =
        ((thread (r.traceTokens room) (tables + token.ownNumbers) token.outline.contents).1.map
            (·.text),
          (thread (r.traceTokens room) (tables + token.ownNumbers) token.outline.contents).2) := by
      -- The contents are one level further down, with less room.
      refine thread_forget (fun tokens _ count => ?_) _
      exact r.renderTokens_eq_traceTokens
        (fun below _ tables => ih (show limit - (depth + 1) = room by omega) tables below) count
    rw [r.renderToken_eq_write (flattens_of_room limited level), texts, ← text_writeTraced]
    rfl

end Renderer

/-- What the templates of tables got as their numbers, with the tables. -/
def Traced.handed (traced : Traced) : List (Token × Option String) :=
  traced.fills.map fun fill => (fill.token, fill.values.lookup .counter)

/-- Tables with numbers that count up from a first one. -/
def countedFrom (first : Nat) (tables : List Token) : List (Token × Option String) :=
  (tables.zipIdx first).map fun entry => (entry.1, some (toString entry.2))

/-- What was handed on in pieces was handed on in the first of them and then in the others. -/
theorem Traced.handed_join_cons (piece : Traced) (rest : List Traced) :
    (Traced.join (piece :: rest)).handed = piece.handed ++ (Traced.join rest).handed := by
  simp [Traced.join, Traced.handed]

/-- Further tables are counted on. -/
theorem countedFrom_append (first : Nat) (front back : List Token) :
    countedFrom first (front ++ back) =
      countedFrom first front ++ countedFrom (first + front.length) back := by
  simp [countedFrom, List.zipIdx_append]

/-- A run behind a number of tables numbers the tables that it reaches from the next number on. -/
structure Numbers (tables : Nat) (reached : List Token) (run : Traced × Nat) : Prop where
  /-- Each table was counted. -/
  after : run.2 = tables + reached.length
  /-- Each table handed on its number. -/
  handed : run.1.handed = countedFrom (tables + 1) reached

/-- Runs one after another number their tables one after another. -/
theorem Numbers.thread {α : Type} {step : Nat → α → Traced × Nat} {reached : α → List Token}
    (items : List α)
    (each : ∀ item ∈ items, ∀ tables, Numbers tables (reached item) (step tables item))
    (tables : Nat) :
    Numbers tables (items.flatMap reached)
      (Traced.join (Manuscript.thread step tables items).1,
        (Manuscript.thread step tables items).2) := by
  induction items generalizing tables with
  | nil => exact ⟨rfl, rfl⟩
  | cons item rest ih =>
    -- The first run takes its numbers, and the others go on counting behind it.
    have here := each item (by simp) tables
    have later := ih (fun i member => each i (by simp [member])) (step tables item).2
    rw [thread_cons]
    constructor
    · rw [later.after, here.after]
      simp only [List.flatMap_cons, List.length_append]
      omega
    · rw [Traced.handed_join_cons, here.handed, later.handed, here.after, List.flatMap_cons,
        countedFrom_append]
      congr 2
      omega

namespace Renderer

variable (r : Renderer)

/-- The filling of a table's own template gets the number of the table. -/
theorem handed_writeTraced (number : Nat) (token : Token) (texts : List String) :
    (r.writeTraced number token (token.outline.refill texts)).handed =
      countedFrom number (if token.kind = .table then [token] else []) := by
  obtain ⟨kind, raw?, children?, attrs⟩ := token
  -- Only a table fills the template of a table, and it does so once.
  by_cases isTable : kind = .table
  · subst isTable
    rfl
  · rw [if_neg isTable]
    cases kind <;> cases raw? <;> first | rfl | exact absurd rfl isTable

/-- Every table that is reached in a tree is numbered from the next number on. -/
theorem numbers_traceToken (room tables : Nat) (token : Token) :
    Numbers tables (token.tablesWithin room) (r.traceToken room tables token) := by
  induction room generalizing tables token with
  | zero => exact ⟨rfl, rfl⟩
  | succ room ih =>
    have each (tokens : List Token) (count : Nat) :
        Numbers count (tokens.flatMap (Token.tablesWithin room))
          (r.traceTokens room count tokens) :=
      Numbers.thread tokens (fun below _ tables => ih tables below) count
    -- What is inside starts behind the number of the token itself.
    have inside := Numbers.thread token.outline.contents (fun tokens _ count => each tokens count)
      (tables + token.ownNumbers)
    rw [← Token.inner_flatMap] at inside
    -- The table itself comes before the tables inside of it.
    have own : (if token.kind = .table then [token] else []).length = token.ownNumbers := by
      by_cases isTable : token.kind = .table <;> simp [Token.ownNumbers, isTable]
    constructor
    · rw [Token.tablesWithin, List.length_append, own, ← Nat.add_assoc]
      exact inside.after
    · rw [Token.tablesWithin, countedFrom_append, own, Nat.add_right_comm, ← inside.handed,
        ← r.handed_writeTraced (tables + 1) token]
      exact List.map_append

/-- Every table that is reached in some trees is numbered from the next number on. -/
theorem numbers_traceTokens (room tables : Nat) (tokens : List Token) :
    Numbers tables (tokens.flatMap (Token.tablesWithin room)) (r.traceTokens room tables tokens) :=
  Numbers.thread tokens (fun token _ count => r.numbers_traceToken room count token) tables

/-- Rendering counts the tables that are reached. -/
theorem renderTokens_count {limit depth room : Nat} (limited : r.depthLimit? = some limit)
    (level : limit - depth = room) (tables : Nat) (tokens : List Token) :
    (r.renderTokens depth tables tokens).2 =
      tables + (tokens.flatMap (Token.tablesWithin room)).length := by
  -- The count goes up by one with every table that is reached.
  rw [r.renderTokens_eq_traceTokens
    fun token _ count => r.renderToken_eq_traceToken limited level count token]
  exact (r.numbers_traceTokens room tables tokens).after

end Renderer

namespace Token

section DocumentOrder

variable {f : Token → List Token} (inside : ∀ token, (f token).Sublist token.preorder)

include inside

/-- What is taken from each of some trees comes in the order of the document. -/
theorem flatMap_sublist_preorderAll (tokens : List Token) :
    (tokens.flatMap f).Sublist (preorderAll tokens) := by
  rw [preorderAll_eq]
  exact List.Sublist.flatMap_right tokens fun token _ => inside token

/-- What is taken from below a token stands behind it. -/
theorem children_flatMap_sublist (token : Token) :
    (token.children.flatMap f).Sublist token.preorder := by
  rw [preorder_eq]
  exact (flatMap_sublist_preorderAll inside token.children).cons token

/-- What is taken from the cells among tokens comes in the order of the document. -/
theorem cellsOf_flatMap_sublist (tokens : List Token) :
    ((cellsOf tokens).flatMap fun cell => cell.children.flatMap f).Sublist
      (preorderAll tokens) := by
  -- The cells are some of the tokens, in their order.
  have all : ((cellsOf tokens).flatMap fun cell => cell.children.flatMap f).Sublist
      (tokens.flatMap fun cell => cell.children.flatMap f) := List.filter_sublist.flatMap _
  exact all.trans (flatMap_sublist_preorderAll (children_flatMap_sublist inside) tokens)

/-- What is taken from header cells comes in the order of the document. -/
theorem headCells_flatMap_sublist (tokens : List Token) :
    ((headCells tokens).flatMap fun cell => cell.children.flatMap f).Sublist
      (preorderAll tokens) := by
  induction tokens with
  | nil => exact List.Sublist.slnil
  | cons token rest ih =>
    rw [headCells_cons, preorderAll]
    -- A row comes before its cells, and what is passed over leaves a gap.
    split
    · rw [List.flatMap_append, preorder_eq]
      exact ((cellsOf_flatMap_sublist inside token.children).cons token).append ih
    split
    · exact (children_flatMap_sublist inside token).append ih
    · exact ih.trans (List.sublist_append_right ..)

/-- What is taken from the rows of a body comes in the order of the document. -/
theorem bodyRows_flatMap_sublist (tokens : List Token) :
    ((bodyRows tokens).flatMap fun row => row.flatMap fun cell => cell.children.flatMap f).Sublist
      (preorderAll tokens) := by
  -- A row takes part with what is inside of it, and anything else is left out.
  induction tokens with
  | nil => exact List.Sublist.slnil
  | cons token rest ih =>
    rw [bodyRows_cons, preorderAll]
    split
    · rw [List.flatMap_cons, preorder_eq]
      exact ((cellsOf_flatMap_sublist inside token.children).cons token).append ih
    · exact ih.trans (List.sublist_append_right ..)

/-- What is taken from a section comes in the order of the document. -/
theorem sectionParts_flatMap_sublist (token : Token) :
    ((token.sectionParts.flatMap TablePart.contents).flatMap fun tokens => tokens.flatMap f).Sublist
      token.preorder := by
  rw [preorder_eq]
  unfold sectionParts
  -- A section comes before all of its cells.
  split
  · refine List.Sublist.cons token ?_
    simpa [List.flatMap_map, headerPart, TablePart.contents, List.flatMap_assoc] using
      headCells_flatMap_sublist inside token.children
  · refine List.Sublist.cons token ?_
    simpa [List.flatMap_map, rowPart, TablePart.contents, List.flatMap_assoc] using
      bodyRows_flatMap_sublist inside token.children
  · exact List.nil_sublist _

/-- What is taken from the tokens one level below a token comes in the order of the document. -/
theorem inner_flatMap_sublist (token : Token) :
    (token.inner.flatMap f).Sublist (preorderAll token.children) := by
  rw [inner_flatMap]
  -- In a table the order is that of its sections, elsewhere that of the children.
  by_cases isTable : token.kind = .table
  · have whole := flatMap_sublist_preorderAll (sectionParts_flatMap_sublist inside) token.children
    simpa [outline, isTable, Outline.contents, List.flatMap_assoc] using whole
  · have whole := flatMap_sublist_preorderAll inside token.children
    obtain ⟨kind, raw?, children?, attrs⟩ := token
    cases kind <;> cases raw? <;>
      first
        | exact absurd rfl isTable
        | exact List.nil_sublist _
        | simpa [outline, Outline.contents] using whole

end DocumentOrder

/-- The tables that are reached come in the order of the document. -/
theorem tablesWithin_sublist_preorder (room : Nat) (token : Token) :
    (token.tablesWithin room).Sublist token.preorder := by
  induction room generalizing token with
  | zero => exact List.nil_sublist _
  | succ room ih =>
    have below := inner_flatMap_sublist ih token
    rw [tablesWithin, preorder_eq]
    -- A table stands before what is inside of it; any other token only leaves a gap.
    split
    · exact below.cons_cons token
    · exact below.cons token

end Token

/--
Rendering counts the tables that it reaches, which the tokens and the depth decide, and hands each
of them the next number in the order of the document.
-/
theorem renderTokens_numbers_tables (templates : TemplateSet) (options : RenderOptions)
    (depth tables : Nat) (tokens : List Token) :
    let r := Renderer.ofTemplates templates options
    let reached := tokens.flatMap (Token.tablesWithin (maxDepth - depth))
    let run := r.traceTokens (maxDepth - depth) tables tokens
    r.renderTokens depth tables tokens = (run.1.text, run.2) ∧
      run.2 = tables + reached.length ∧
      run.1.handed = countedFrom (tables + 1) reached ∧
      reached.Sublist (Token.preorderAll tokens) := by
  intro r reached run
  -- The run that keeps a trace writes the same, and its trace is what is said here.
  have numbers : Numbers tables reached run := r.numbers_traceTokens _ tables tokens
  refine ⟨?_, numbers.after, numbers.handed, ?_⟩
  · exact r.renderTokens_eq_traceTokens
      (fun token _ count => r.renderToken_eq_traceToken rfl rfl count token) tables
  · exact Token.flatMap_sublist_preorderAll (Token.tablesWithin_sublist_preorder _) tokens

end Manuscript
