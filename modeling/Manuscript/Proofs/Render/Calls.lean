import Manuscript.Proofs.Render.Session

/-!
The calls of a renderer in use. Only the number of tables is left behind by a call: it counts the
tables that were reached, and no later call sees anything else of what was done before.
-/

namespace Manuscript

namespace Token

/-- Only tables are counted among the tables that are reached in a tree. -/
theorem kind_of_mem_tablesWithin {room : Nat} {token found : Token}
    (member : found ∈ token.tablesWithin room) : found.kind = .table := by
  induction room generalizing token with
  | zero => cases member
  | succ room ih =>
    rw [tablesWithin] at member
    rcases List.mem_append.mp member with here | below
    · -- The token itself is among them only when it is a table.
      split at here
      · rename_i isTable
        rw [List.mem_singleton.mp here]
        exact isTable
      · cases here
    · obtain ⟨inner, -, inside⟩ := List.mem_flatMap.mp below
      exact ih inside

/-- A token taken as a table, whatever its kind. -/
def asTable (token : Token) : Token := { token with kind := .table }

end Token

namespace Renderer

variable (r : Renderer)

/-- Assembling a table counts the tables that are reached in its cells. -/
theorem assembleTable_count (limited : r.depthLimit? = some maxDepth) (tables : Nat)
    (token : Token) :
    (r.assembleTable tables token).2 =
      tables + (token.asTable.inner.flatMap (Token.tablesWithin maxDepth)).length := by
  -- Only the lists of the cells are rendered, each with the count it is handed.
  have each (tokens : List Token) (count : Nat) :
      (r.renderTokens 0 count tokens).2 =
        count + (tokens.flatMap (Token.tablesWithin maxDepth)).length :=
    r.renderTokens_count limited rfl count tokens
  rw [assembleTable, assembleSections_eq, Token.inner_flatMap]
  exact thread_count (fun tokens _ count => each tokens count) tables

end Renderer

namespace Call

/-- The tokens that a call is given. -/
def given : Call → List Token
  | .token root | .table root | .assemble root | .tableSection root | .tableCell root => [root]
  | .tokens roots | .document roots _ => roots
  | .construct _ => []

/-- The tokens that get a number in a call, in the order of their numbers. -/
def numbered : Call → List Token
  | .token root => root.tablesWithin maxDepth
  | .tokens roots | .document roots _ => roots.flatMap (Token.tablesWithin maxDepth)
  -- The token that is to be written as a table is not asked for its kind.
  | .table root => root :: root.asTable.inner.flatMap (Token.tablesWithin maxDepth)
  | .assemble root => root.asTable.inner.flatMap (Token.tablesWithin maxDepth)
  | .tableSection root | .tableCell root => root.children.flatMap (Token.tablesWithin maxDepth)
  | .construct _ => []

/-- Tokens are numbered in the order in which they stand among those that are given. -/
theorem numbered_sublist (call : Call) : call.numbered.Sublist (Token.preorderAll call.given) := by
  -- Each way to ask starts at some tokens, and what is reached from these stands in their order.
  have reached := Token.tablesWithin_sublist_preorder maxDepth
  have alone (root : Token) : Token.preorderAll [root] = root.preorder := by
    rw [Token.preorderAll_eq, List.flatMap_singleton]
  have below (root : Token) :
      (root.asTable.inner.flatMap (Token.tablesWithin maxDepth)).Sublist
        (Token.preorderAll root.children) :=
    Token.inner_flatMap_sublist reached root.asTable
  cases call with
  | token root =>
    rw [given, alone]
    exact reached root
  | tokens roots | document roots template =>
    exact Token.flatMap_sublist_preorderAll reached roots
  -- The table itself has the first number.
  | table root =>
    rw [given, alone, Token.preorder_eq]
    exact (below root).cons_cons root
  | assemble root =>
    rw [given, alone, Token.preorder_eq]
    exact (below root).cons root
  | tableSection root | tableCell root =>
    rw [given, alone]
    exact Token.children_flatMap_sublist reached root
  | construct call => exact List.nil_sublist _

/-- Only tables get a number, and the token that is to be written as one. -/
theorem kind_of_numbered {call : Call} {found : Token} (member : found ∈ call.numbered) :
    found.kind = .table ∨ call = .table found := by
  -- What is reached from any tokens that are given is a table.
  have within (tokens : List Token)
      (inside : found ∈ tokens.flatMap (Token.tablesWithin maxDepth)) :
      found.kind = .table ∨ call = .table found := by
    obtain ⟨token, -, reached⟩ := List.mem_flatMap.mp inside
    exact .inl (Token.kind_of_mem_tablesWithin reached)
  cases call with
  | token root => exact .inl (Token.kind_of_mem_tablesWithin member)
  | table root =>
    rcases List.mem_cons.mp member with rfl | below
    · exact .inr rfl
    · exact within _ below
  | tokens roots | document roots template | assemble root | tableSection root | tableCell root =>
    exact within _ member
  -- A construct is written without reaching a token.
  | construct call => cases member

/-- A call counts the tokens that it numbers. -/
theorem answer_count {r : Renderer} (limited : r.depthLimit? = some maxDepth) (tables : Nat)
    (call : Call) : (call.answer r tables).2 = tables + call.numbered.length := by
  have counted (tokens : List Token) :
      (r.renderTokens 0 tables tokens).2 =
        tables + (tokens.flatMap (Token.tablesWithin maxDepth)).length :=
    r.renderTokens_count limited rfl tables tokens
  cases call with
  | token root =>
    have single := counted [root]
    rwa [Renderer.renderTokens_singleton, List.flatMap_singleton] at single
  | tokens roots | document roots template => exact counted roots
  | table root =>
    have inside := r.assembleTable_count limited (tables + 1) root
    -- The table that is written is counted before those in its cells.
    rw [Nat.add_assoc, Nat.add_comm 1] at inside
    exact inside
  | assemble root => exact r.assembleTable_count limited tables root
  | tableSection root | tableCell root => exact counted root.children
  -- A construct is written without counting anything.
  | construct call => rfl

/-- How a call goes, with the session before it and what it leaves. -/
structure Settles (r : Renderer) (call : Call) (before : Session) (done : Reply × Session) :
    Prop where
  /-- No token is being written before the call. -/
  depthBefore : before.depth = 0
  /-- No token is being written after the call. -/
  depthAfter : done.2.depth = 0
  /-- The reply is that of a renderer that did nothing before but count as many tables. -/
  reply : done.1 = ((call.perform r).run { tables := before.tables }).1
  /-- The count is that of such a renderer. -/
  tables : done.2.tables = ((call.perform r).run { tables := before.tables }).2.tables
  /-- The templates are filled with what such a renderer fills them with. -/
  fillings : done.2.fillings =
    ((call.perform r).run { tables := before.tables }).2.fillings ++ before.fillings
  /-- The count goes up by the number of tokens that get a number. -/
  counted : done.2.tables = before.tables + call.numbered.length
  /-- These are tokens that the call was given, or stand below them, in their order. -/
  order : call.numbered.Sublist (Token.preorderAll call.given)
  /-- They are tables, or the token that the call is to write as one. -/
  kinds : ∀ found ∈ call.numbered, found.kind = .table ∨ call = .table found
  /-- The count never goes down. -/
  grows : before.tables ≤ done.2.tables
  /-- A single construct counts nothing. -/
  construct : ∀ written, call = .construct written → done.2.tables = before.tables
  /-- A call that reaches no table counts nothing, unless it is to write a token as a table. -/
  unreached : (∀ found ∈ call.numbered, found.kind ≠ .table) → (∀ token, call ≠ .table token) →
    done.2.tables = before.tables

end Call

/--
Whatever calls a renderer answered before, the next call goes as on a renderer that only counted as
many tables: it gives the same reply, counts the same tables and leaves no depth behind.
-/
theorem call_settles (templates : TemplateSet) (options : RenderOptions) (history : List Call)
    (call : Call) :
    let r := Renderer.ofTemplates templates options
    let before := ((Call.performAll r history).run {}).2
    call.Settles r before ((call.perform r).run before) := by
  intro r before
  -- All that the history leaves is a count, at no depth, and what was filled.
  obtain ⟨filled, -, ran⟩ := Call.performAll_matches r history 0
  obtain ⟨tables, found⟩ : ∃ tables, before = ⟨tables, 0, filled⟩ :=
    ⟨_, by rw [← List.append_nil filled]; exact congrArg Prod.snd (ran [])⟩
  rw [found]
  obtain ⟨made, -, run⟩ := Call.perform_matches r call tables
  have here := run filled
  -- On a session that only has the count the answer is the same.
  have fresh : (call.perform r).run { tables } =
      ((call.answer r tables).1, ⟨(call.answer r tables).2, 0, made ++ []⟩) := run []
  have counted : (call.answer r tables).2 = tables + call.numbered.length :=
    Call.answer_count rfl tables call
  rw [here]
  exact {
    depthBefore := rfl
    depthAfter := rfl
    reply := by rw [fresh]
    tables := by rw [fresh]
    fillings := by rw [fresh, List.append_nil]
    counted := counted
    order := call.numbered_sublist
    kinds := fun token member => Call.kind_of_numbered member
    grows := by
      simp only [counted]
      omega
    construct := by
      rintro written rfl
      exact counted
    unreached := by
      intro others notTable
      -- A token that is numbered would have to be a table, or the one to be written as a table.
      have none : call.numbered = [] := by
        refine List.eq_nil_iff_forall_not_mem.mpr fun token member => ?_
        exact (Call.kind_of_numbered member).elim (others token member) (notTable token)
      simpa [none] using counted }

/-- A paragraph that is to be written as a table is counted, although it is no table. -/
theorem call_table_counts_paragraph :
    let r := Renderer.ofTemplates TemplateSet.builtin {}
    let call := Call.table (Token.bare .paragraph)
    (∀ token ∈ Token.preorderAll call.given, token.kind ≠ .table) ∧
      ((call.perform r).run {}).2.tables ≠ ({} : Session).tables := by
  -- A table is counted whatever the kind of the token that holds its sections.
  refine ⟨by simp [Call.given, Token.preorderAll, Token.preorder, Token.bare], ?_⟩
  decide

end Manuscript
