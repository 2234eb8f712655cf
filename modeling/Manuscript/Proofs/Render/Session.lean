import Manuscript.Proofs.Render.Numbering
import Manuscript.Render.Session

/-!
A renderer in use writes what is written from the depth and the number of tables alone. It leaves
the depth as it was, what it did before does not matter, and a template is filled only with a value
for each placeholder that it may use.
-/

namespace Manuscript

/-- A template was given a value for each placeholder that its construct offers. -/
def Filling.IsComplete (filling : Filling) : Prop :=
  ∀ placeholder ∈ filling.construct.placeholders, (filling.values.lookup placeholder).isSome = true

/-- Values for just the placeholders that a construct offers are all that it needs. -/
theorem Filling.isComplete_of_keys {construct : Construct} {values : Values}
    (keys : values.map Prod.fst = construct.placeholders) :
    (Filling.mk construct values).IsComplete := by
  intro placeholder member
  have offered : placeholder ∈ values.map Prod.fst := keys ▸ member
  obtain ⟨entry, within, rfl⟩ := List.mem_map.mp offered
  -- Nothing would be found only if this entry had another placeholder than its own.
  rw [Option.isSome_iff_ne_none]
  intro nothing
  have different := List.lookup_eq_none_iff.mp nothing entry within
  simp at different

/-- What is written for a single construct. -/
def ConstructCall.written (r : Renderer) : ConstructCall → String
  | .text content => r.text content
  | .emphasis content => r.emphasis content
  | .strong content => r.strong content
  | .link content url title? => r.link content url title?
  | .image alt url title? => r.image alt url title?
  | .codespan code => r.codespan code
  | .linebreak => r.linebreak
  | .softbreak => r.softbreak
  | .inlineMath math => r.inlineMath math
  | .paragraph content => r.paragraph content
  | .heading content level => r.heading content level
  | .blockText content => r.blockText content
  | .blockCode code info? => r.blockCode code info?
  | .blockQuote content => r.blockQuote content
  | .blockMath math => r.blockMath math
  | .thematicBreak => r.thematicBreak
  | .blankLine => r.blankLine
  | .list items ordered => r.list items ordered
  | .orderedList items => r.orderedList items
  | .unorderedList items => r.unorderedList items
  | .listItem content => r.listItem content

variable {α β : Type}

/--
Work at a depth gives what a function of the number of tables says and moves this number on as the
function says. The depth stays, nothing else that is remembered matters, and all fillings are
complete.
-/
def Rendering.Matches (depth : Nat) (work : Rendering α) (plain : Nat → α × Nat) : Prop :=
  ∀ tables, ∃ made : List Filling, (∀ filling ∈ made, filling.IsComplete) ∧
    ∀ earlier, work.run ⟨tables, depth, earlier⟩ =
      ((plain tables).1, ⟨(plain tables).2, depth, made ++ earlier⟩)

namespace Rendering.Matches

variable {depth : Nat} {r : Renderer}

/-- A result that is there already needs no work. -/
theorem pure (result : α) :
    Matches depth (Pure.pure result : Rendering α) fun tables => (result, tables) := by
  intro tables
  exact ⟨[], by simp, fun earlier => rfl⟩

/-- Work that goes on with the result of other work finds the depth as it was. -/
theorem bind {work : Rendering α} {next : α → Rendering β} {plain : Nat → α × Nat}
    {after : α → Nat → β × Nat} (first : Matches depth work plain)
    (others : ∀ result, Matches depth (next result) (after result)) :
    Matches depth (work >>= next) fun tables => after (plain tables).1 (plain tables).2 := by
  -- What was filled in last comes first, and all of it was complete.
  intro tables
  obtain ⟨made, complete, run⟩ := first tables
  obtain ⟨more, completeMore, runNext⟩ := others (plain tables).1 (plain tables).2
  refine ⟨more ++ made, ?_, fun earlier => ?_⟩
  · intro filling member
    rcases List.mem_append.mp member with late | soon
    · exact completeMore filling late
    · exact complete filling soon
  · -- The second part starts from what the first one remembers.
    have start : (work >>= next).run ⟨tables, depth, earlier⟩ =
        (next (work.run ⟨tables, depth, earlier⟩).1).run (work.run ⟨tables, depth, earlier⟩).2 :=
      rfl
    rw [start, run, runNext, List.append_assoc]

/-- The result of work may be changed without further work. -/
theorem map {work : Rendering α} {plain : Nat → α × Nat} (change : α → β)
    (first : Matches depth work plain) :
    Matches depth (do return change (← work)) fun tables =>
      (change (plain tables).1, (plain tables).2) :=
  first.bind fun result => pure (change result)

/-- What was said of a function of the number holds of any other one with the same values. -/
theorem congr {work : Rendering α} {plain other : Nat → α × Nat} (first : Matches depth work plain)
    (same : ∀ tables, plain tables = other tables) : Matches depth work other := by
  obtain rfl : plain = other := funext same
  exact first

/-- Work that looks at the depth sees the one that it is done at. -/
theorem atDepth {work : Nat → Rendering α} {plain : Nat → α × Nat}
    (here : Matches depth (work depth) plain) :
    Matches depth (do work (← get).depth) plain := by
  intro tables
  -- The depth that is read is the one that the work starts at.
  obtain ⟨made, complete, run⟩ := here tables
  exact ⟨made, complete, fun earlier => run earlier⟩

/-- A template that gets all its values is filled, and nothing else happens. -/
theorem fill {construct : Construct} {values : Values}
    (keys : values.map Prod.fst = construct.placeholders) :
    Matches depth (Session.fill r construct values) fun tables =>
      (r.fill construct values, tables) := by
  intro tables
  -- The values are those of the placeholders, so that the filling is complete.
  have complete := Filling.isComplete_of_keys keys
  exact ⟨[⟨construct, values⟩], by simpa using complete, fun earlier => rfl⟩

/-- Every single construct gives its template all the values that this may use. -/
theorem write (call : ConstructCall) :
    Matches depth (Session.write r call) fun tables => (call.written r, tables) := by
  cases call with
  | image alt url title? => exact (fill (by rfl)).map _
  | blockCode code info? =>
    -- With a language that listings know it is another template, which offers the language too.
    simp only [Session.write, ConstructCall.written, Renderer.blockCode]
    cases listingLanguage? info? <;> exact fill (by rfl)
  | list items ordered => cases ordered <;> exact fill (by rfl)
  | _ => exact fill (by rfl)

/-- What is written for a token outside of tables is a single construct, if it is anything. -/
theorem construct (kind : TokenKind) (attrs : Attrs) (content : String) :
    Matches depth (Session.construct r kind attrs content) fun tables =>
      (r.construct kind attrs content, tables) := by
  -- A construct is the call that the token stands for, if it stands for one.
  have same : r.construct kind attrs content =
      ((ConstructCall.ofToken? kind attrs content).map (·.written r)).getD "" := by
    cases kind <;> rfl
  rw [same]
  unfold Session.construct
  cases ConstructCall.ofToken? kind attrs content with
  | none => exact pure ""
  | some call => exact write call

/-- Work one level deeper comes back to the depth that it started from. -/
theorem deeper {work : Rendering α} {plain : Nat → α × Nat}
    (inside : Matches (depth + 1) work plain) : Matches depth (Session.deeper work) plain := by
  intro tables
  obtain ⟨made, complete, run⟩ := inside tables
  refine ⟨made, complete, fun earlier => ?_⟩
  -- The depth goes up before the work and down behind it, and nothing else is touched.
  have start : (Session.deeper work).run ⟨tables, depth, earlier⟩ =
      let (result, session) := work.run ⟨tables, depth + 1, earlier⟩
      (result, { session with depth := session.depth - 1 }) := rfl
  rw [start, run]
  rfl

/-- A table takes the next number, and those inside of it the numbers behind. -/
theorem tableWith {assemble : Rendering TableAssembly} {plain : Nat → TableAssembly × Nat}
    (inside : Matches depth assemble plain) :
    Matches depth (Session.tableWith r assemble) fun tables =>
      (r.tableBlock (tables + 1) (plain (tables + 1)).1, (plain (tables + 1)).2) := by
  intro tables
  -- The number is the one that was counted, whatever the tables inside of it count.
  have filled (table : TableAssembly) :
      Matches depth (Session.fill r .table (Renderer.tableValues (tables + 1) table))
        fun tables' => (r.tableBlock (tables + 1) table, tables') := fill (by rfl)
  exact (inside.bind filled) (tables + 1)

/-- Content is written in bold. -/
theorem strongWith {content : Rendering String} {plain : Nat → String × Nat}
    (inside : Matches depth content plain) :
    Matches depth (Session.strongWith r content) fun tables =>
      (r.strong (plain tables).1, (plain tables).2) :=
  inside.bind fun text => write (.strong text)

/-- A cell is written around its content, in bold or as it is. -/
theorem cellWith {content : Rendering String} {plain : Nat → String × Nat} (attrs : Attrs)
    (inside : Matches depth content plain) :
    Matches depth (Session.cellWith r attrs content) fun tables =>
      (r.cellText attrs (plain tables).1, (plain tables).2) := by
  unfold Session.cellWith Renderer.cellText
  -- A head cell is filled into the template of strong text, and any other into none.
  by_cases isHead : attrs.flag "head" = true
  · simp only [if_pos isHead]
    exact inside.strongWith
  · simp only [if_neg isHead]
    exact inside

end Rendering.Matches

namespace Session

open Rendering

variable (r : Renderer)

-- The induction goes through a token and all that stands inside of it, one level deeper there.
mutual

/-- A token at the depth that is remembered is written as at this depth. -/
theorem renderToken_matches (depth : Nat) (token : Token) :
    Matches depth (renderToken r token) fun tables => r.renderToken depth tables token := by
  cases token with
  | mk kind raw? children? attrs =>
  refine @Matches.atDepth _ _ (fun depth => if r.flattens depth then _ else _) _ ?_
  by_cases deep : r.flattens depth = true
  · -- Below the limit one text is written and nothing inside is looked at.
    simp only [if_pos deep, r.renderToken_eq_text deep]
    exact Matches.write (.text _)
  rw [if_neg deep]
  have inside := renderInside_matches (depth + 1) children?
  cases kind with
  | table =>
    have sections := assembleInside_matches (depth + 1) children?
    refine (Matches.deeper (Matches.tableWith sections)).congr fun tables => ?_
    cases children? <;> exact (if_neg deep).symm
  -- Parts of a table write what is in them, one level further down.
  | tableHead | tableBody | tableRow =>
    refine (Matches.deeper inside).congr fun tables => ?_
    cases children? <;> exact (if_neg deep).symm
  | tableCell =>
    refine (Matches.deeper (Matches.cellWith attrs inside)).congr fun tables => ?_
    cases children? <;> exact (if_neg deep).symm
  | _ =>
    -- A text of its own takes the place of what is inside.
    cases raw? with
    | some raw =>
      refine (Matches.deeper (Matches.construct _ attrs raw)).congr fun tables => ?_
      cases children? <;> exact (if_neg deep).symm
    | none =>
      refine (Matches.deeper (inside.bind (Matches.construct _ attrs))).congr fun tables => ?_
      cases children? <;> exact (if_neg deep).symm

/-- The tokens of a list that there may be are written one after another. -/
theorem renderInside_matches (depth : Nat) (children? : Option (List Token)) :
    Matches depth (renderInside r children?) fun tables =>
      r.renderTokens depth tables (children?.getD []) := by
  cases children? with
  -- Without children nothing is written and nothing filled.
  | none => exact Matches.pure ""
  | some tokens => exact renderTokens_matches depth tokens

/-- Tokens are written one after another. -/
theorem renderTokens_matches (depth : Nat) (tokens : List Token) :
    Matches depth (renderTokens r tokens) fun tables => r.renderTokens depth tables tokens := by
  cases tokens with
  | nil => exact Matches.pure ""
  | cons token rest =>
    -- The rest goes on with the count and the log that the first token left.
    exact (renderToken_matches depth token).bind fun first =>
      (renderTokens_matches depth rest).map (first ++ ·)

/-- The sections of a table that there may be are assembled from none on. -/
theorem assembleInside_matches (depth : Nat) (children? : Option (List Token)) :
    Matches depth (assembleInside r children?) fun tables =>
      r.assembleSections depth tables {} (children?.getD []) := by
  cases children? with
  -- Without children the table stays empty.
  | none => exact Matches.pure ({} : TableAssembly)
  | some sections => exact assembleSections_matches depth {} sections

/-- The sections of a table are added to what was assembled. -/
theorem assembleSections_matches (depth : Nat) (table : TableAssembly) (tokens : List Token) :
    Matches depth (assembleSections r table tokens) fun tables =>
      r.assembleSections depth tables table tokens := by
  -- Token by token, in the order in which the sections are written in both.
  cases tokens with
  | nil => exact Matches.pure table
  | cons token rest =>
  cases token with
  | mk kind raw? children? attrs =>
  cases kind with
  | tableHead =>
    cases children? with
    | none => exact assembleSections_matches depth table rest
    | some children =>
      exact (assembleHead_matches depth table children).bind fun table =>
        assembleSections_matches depth table rest
  | tableBody =>
    cases children? with
    | none => exact assembleSections_matches depth table rest
    | some children =>
      exact (assembleBody_matches depth table children).bind fun table =>
        assembleSections_matches depth table rest
  -- A token of another kind is passed over on both sides.
  | _ => exact assembleSections_matches depth table rest

/-- The children of a head are added as header cells, those in rows like those outside. -/
theorem assembleHead_matches (depth : Nat) (table : TableAssembly) (tokens : List Token) :
    Matches depth (assembleHead r table tokens) fun tables =>
      r.assembleHead depth tables table tokens := by
  -- A cell may stand in the head without a row, and is then added like one in a row.
  cases tokens with
  | nil => exact Matches.pure table
  | cons token rest =>
  cases token with
  | mk kind raw? children? attrs =>
  cases kind with
  | tableRow =>
    cases children? with
    | none => exact assembleHead_matches depth table rest
    | some cells =>
      exact (headerCells_matches depth table cells).bind fun table =>
        assembleHead_matches depth table rest
  | tableCell =>
    -- A header cell is written in bold, wherever it stands.
    have strong := (renderInside_matches depth children?).strongWith (r := r)
    refine (strong.bind fun cell => assembleHead_matches depth _ rest).congr fun tables => ?_
    cases children? <;> rfl
  | _ => exact assembleHead_matches depth table rest

/-- The cells of a row of the head are added as header cells. -/
theorem headerCells_matches (depth : Nat) (table : TableAssembly) (tokens : List Token) :
    Matches depth (headerCells r table tokens) fun tables =>
      r.headerCells depth tables table tokens := by
  -- What is no cell is passed over in both.
  cases tokens with
  | nil => exact Matches.pure table
  | cons token rest =>
  cases token with
  | mk kind raw? children? attrs =>
  cases kind with
  | tableCell =>
    have strong := (renderInside_matches depth children?).strongWith (r := r)
    refine (strong.bind fun cell => headerCells_matches depth _ rest).congr fun tables => ?_
    cases children? <;> rfl
  | _ => exact headerCells_matches depth table rest

/-- The rows of a body are added one after another, unless they have no cells. -/
theorem assembleBody_matches (depth : Nat) (table : TableAssembly) (tokens : List Token) :
    Matches depth (assembleBody r table tokens) fun tables =>
      r.assembleBody depth tables table tokens := by
  cases tokens with
  | nil => exact Matches.pure table
  | cons token rest =>
  cases token with
  | mk kind raw? children? attrs =>
  cases kind with
  | tableRow =>
    cases children? with
    | none => exact assembleBody_matches depth table rest
    | some children =>
      refine ((rowCells_matches depth children).bind fun cells =>
        assembleBody_matches depth (table.addRow cells) rest).congr fun tables => ?_
      -- A row without cells is left out on both sides.
      rw [Renderer.assembleBody]
      generalize r.rowCells depth tables children = run
      obtain ⟨cells, between⟩ := run
      cases cells <;> rfl
  -- What is no row is passed over on both sides.
  | _ => exact assembleBody_matches depth table rest

/-- The cells of a row of the body are written one after another. -/
theorem rowCells_matches (depth : Nat) (tokens : List Token) :
    Matches depth (rowCells r tokens) fun tables => r.rowCells depth tables tokens := by
  -- The text of a cell is written before those behind it, as the tables inside of it are counted.
  cases tokens with
  | nil => exact Matches.pure []
  | cons token rest =>
  cases token with
  | mk kind raw? children? attrs =>
  cases kind with
  | tableCell =>
    have cell := (renderInside_matches depth children?).cellWith (r := r) attrs
    refine (cell.bind fun text => (rowCells_matches depth rest).map
      ((text, attrs.text? "align") :: ·)).congr fun tables => ?_
    cases children? <;> rfl
  | _ => exact rowCells_matches depth rest

end

end Session

namespace Call

variable (r : Renderer)

/-- What a call is answered with behind a number of tables, and the number behind the call. -/
def answer (tables : Nat) : Call → Reply × Nat
  | .token given => (.text (r.renderToken 0 tables given).1, (r.renderToken 0 tables given).2)
  | .tokens given => (.text (r.renderTokens 0 tables given).1, (r.renderTokens 0 tables given).2)
  | .document given template =>
    (.text (r.document tables given template).1, (r.document tables given template).2)
  | .table given => (.text (r.table tables given).1, (r.table tables given).2)
  | .assemble given =>
    (.assembly (r.assembleTable tables given).1, (r.assembleTable tables given).2)
  | .tableSection given =>
    (.text (r.tableSection tables given).1, (r.tableSection tables given).2)
  | .tableCell given => (.text (r.tableCell tables given).1, (r.tableCell tables given).2)
  | .construct call => (.text (call.written r), tables)

/-- Every call is answered as the number of tables before it says, from no depth on. -/
theorem perform_matches (call : Call) :
    Rendering.Matches 0 (call.perform r) fun tables => call.answer r tables := by
  -- No call comes from within another one, so each starts from no depth.
  cases call with
  | token given => exact (Session.renderToken_matches r 0 given).map _
  | tokens given => exact (Session.renderTokens_matches r 0 given).map _
  | document given template =>
    exact ((Session.renderTokens_matches r 0 given).map template.wrap).map _
  | table given =>
    have sections := Session.assembleSections_matches r 0 {} given.children
    exact sections.tableWith.map _
  | assemble given => exact (Session.assembleSections_matches r 0 {} given.children).map _
  | tableSection given => exact (Session.renderTokens_matches r 0 given.children).map _
  | tableCell given =>
    exact ((Session.renderTokens_matches r 0 given.children).cellWith given.attrs).map _
  | construct call => exact (Rendering.Matches.write call).map _

/-- Calls one after another are each answered behind the tables of those before. -/
theorem performAll_matches (calls : List Call) :
    Rendering.Matches 0 (performAll r calls) fun tables =>
      thread (fun tables call => call.answer r tables) tables calls := by
  -- The first call answers, and the others go on with the tables that it leaves behind.
  induction calls with
  | nil => exact Rendering.Matches.pure []
  | cons call rest ih =>
    have split : performAll r (call :: rest) =
        (call.perform r >>= fun first => performAll r rest >>= fun others =>
          pure (first :: others)) := List.mapM_cons
    rw [split]
    exact (perform_matches r call).bind fun first => ih.map (first :: ·)

end Call

end Manuscript
