import Manuscript.Proofs.Render.Outline

/-!
What is assembled for a table: the texts of its header and of its rows, from its parts. What holds of
the contents of all cells, and is kept where a cell is written, holds of all that is assembled.
-/

namespace Manuscript

/-- The texts of cells. -/
def Renderer.cellTexts (r : Renderer) (cells : List (Attrs × String)) : List String :=
  cells.map fun cell => r.cellText cell.1 cell.2

/-- The texts of the header cells among parts of a table. -/
def Renderer.headerTexts (r : Renderer) : List (TablePart String) → List String
  | [] => []
  | .header _ content :: rest => r.strong content :: r.headerTexts rest
  | .row _ :: rest => r.headerTexts rest

/-- The texts of the rows among parts of a table. -/
def Renderer.rowTexts (r : Renderer) : List (TablePart String) → List (List String)
  | [] => []
  | .header _ _ :: rest => r.rowTexts rest
  | .row cells :: rest => r.cellTexts cells :: r.rowTexts rest

/-- The header of a table is made of the header cells of its parts. -/
theorem header_foldl_addPart (r : Renderer) (parts : List (TablePart String))
    (table : TableAssembly) :
    (parts.foldl r.addPart table).header = table.header ++ r.headerTexts parts := by
  induction parts generalizing table with
  | nil => simp [Renderer.headerTexts]
  | cons part rest ih =>
    rw [List.foldl_cons, ih]
    -- A header cell is put behind the others, and a row changes none of them.
    cases part <;> simp [Renderer.addPart, Renderer.headerTexts]

/-- The body of a table is made of the rows of its parts. -/
theorem rows_foldl_addPart (r : Renderer) (parts : List (TablePart String))
    (table : TableAssembly) :
    (parts.foldl r.addPart table).rows = table.rows ++ r.rowTexts parts := by
  induction parts generalizing table with
  | nil => simp [Renderer.rowTexts]
  | cons part rest ih =>
    rw [List.foldl_cons, ih]
    -- A row is put behind the others, and a header cell changes none of them.
    cases part <;> simp [Renderer.addPart, Renderer.rowTexts, Renderer.cellTexts]

section Each

variable {r : Renderer} {parts : List (TablePart String)} {P : String → Prop}
  (each : ∀ part ∈ parts, ∀ content ∈ part.contents, P content)

include each

/-- What holds of all contents, and is kept by strong cells, holds of the header. -/
theorem forall_mem_headerTexts (strong : ∀ content, P content → P (r.strong content)) :
    ∀ cell ∈ r.headerTexts parts, P cell := by
  induction parts with
  | nil => exact nofun
  | cons part rest ih =>
    have others := ih fun other member => each other (by simp [member])
    -- Only a header cell adds to the header.
    cases part with
    | header attrs content =>
      have here := each _ List.mem_cons_self content (List.mem_singleton.mpr rfl)
      exact List.forall_mem_cons.mpr ⟨strong content here, others⟩
    | row cells => exact others

/-- What holds of all contents, and is kept by cells, holds of the rows. -/
theorem forall_mem_rowTexts (kept : ∀ attrs content, P content → P (r.cellText attrs content)) :
    ∀ row ∈ r.rowTexts parts, ∀ cell ∈ row, P cell := by
  induction parts with
  | nil => exact nofun
  | cons part rest ih =>
    have others := ih fun other member => each other (by simp [member])
    -- Only a row adds to the rows, cell by cell.
    cases part with
    | header attrs content => exact others
    | row cells =>
      refine List.forall_mem_cons.mpr ⟨fun text member => ?_, others⟩
      obtain ⟨cell, within, rfl⟩ := List.mem_map.mp member
      exact kept cell.1 cell.2 (each _ List.mem_cons_self cell.2 (List.mem_map_of_mem within))

end Each

section Refill

variable {α β : Type} {parts : List (TablePart α)} {texts : List β} {cells : List (Attrs × β)}

/-- What is put in place of the contents of parts is one of the new texts. -/
theorem TablePart.mem_of_mem_refill {part : TablePart β} (member : part ∈ refill parts texts)
    {content : β} (inside : content ∈ part.contents) : content ∈ texts := by
  induction parts generalizing texts with
  | nil => cases texts <;> exact nomatch member
  | cons first rest ih =>
    -- A header cell takes one text, and a row as many as it has cells.
    cases first with
    | header attrs old =>
      cases texts with
      | nil => exact nomatch member
      | cons text others =>
        rcases List.mem_cons.mp member with rfl | later
        · exact List.mem_cons.mpr (.inl (List.mem_singleton.mp inside))
        · exact List.mem_cons_of_mem _ (ih later)
    | row given =>
      rcases List.mem_cons.mp member with rfl | later
      · obtain ⟨cell, within, rfl⟩ := List.mem_map.mp inside
        exact List.mem_of_mem_take (List.of_mem_zip within).2
      · -- What the row has not taken fills the parts behind it.
        exact List.mem_of_mem_drop (ih later)

/-- Rows with cells stay rows with cells when there is a text for each content. -/
theorem TablePart.row_refill_ne_nil (size : texts.length = (parts.flatMap contents).length)
    (filled : ∀ cells, .row cells ∈ parts → cells ≠ []) (member : .row cells ∈ refill parts texts) :
    cells ≠ [] := by
  induction parts generalizing texts with
  | nil => cases texts <;> exact nomatch member
  | cons first rest ih =>
    have others : ∀ cells, .row cells ∈ rest → cells ≠ [] :=
      fun cells within => filled cells (List.mem_cons_of_mem _ within)
    rw [List.flatMap_cons, List.length_append] at size
    cases first with
    | header attrs old =>
      -- The header takes one of the texts, and is no row.
      have held : (contents (.header attrs old)).length = 1 := rfl
      cases texts with
      | nil => exact nomatch member
      | cons text more =>
        rw [List.length_cons] at size
        rcases List.mem_cons.mp member with other | later
        · exact nomatch other
        · exact ih (by omega) others later
    | row given =>
      -- A row takes as many of the texts as it has cells, and leaves as many as the others have.
      have held : (contents (.row given)).length = given.length := List.length_map _
      rcases List.mem_cons.mp member with same | later
      · have some : 0 < given.length := List.length_pos_iff.mpr (filled given List.mem_cons_self)
        obtain rfl := TablePart.row.inj same
        refine List.length_pos_iff.mp ?_
        rw [List.length_zip, List.length_map, List.length_take]
        omega
      · exact ih (by rw [List.length_drop]; omega) others later

/-- The rows of a section are rows with cells, as those without are left out. -/
theorem Token.ne_nil_of_row_mem_sectionParts {part : Token}
    {cells : List (Attrs × List Token)} (member : .row cells ∈ part.sectionParts) :
    cells ≠ [] := by
  unfold sectionParts at member
  -- Heads have no rows, and the rows of a body were filtered.
  split at member
  · obtain ⟨cell, -, other⟩ := List.mem_map.mp member
    exact nomatch other
  · obtain ⟨row, within, same⟩ := List.mem_map.mp member
    obtain rfl := TablePart.row.inj same
    have filled : row ≠ [] := of_decide_eq_true (List.mem_filter.mp within).2
    exact fun empty => filled (List.map_eq_nil_iff.mp empty)
  · cases member

/-- Rows with cells are written as rows with cells. -/
theorem ne_nil_of_mem_rowTexts {r : Renderer} {parts : List (TablePart String)}
    (filled : ∀ cells, .row cells ∈ parts → cells ≠ []) : ∀ row ∈ r.rowTexts parts, row ≠ [] := by
  induction parts with
  | nil => exact nofun
  | cons part rest ih =>
    have others := ih fun cells within => filled cells (List.mem_cons_of_mem _ within)
    -- A row is written with a cell for each of its own.
    cases part with
    | header attrs content => exact others
    | row cells =>
      refine List.forall_mem_cons.mpr ⟨fun empty => ?_, others⟩
      exact filled cells List.mem_cons_self (List.map_eq_nil_iff.mp empty)

end Refill

end Manuscript
