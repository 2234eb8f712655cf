import Manuscript.Template.Library.Documents
import Mathlib.Data.List.Infix

/-!
Documents that mark the place of the body: a text can be cut wherever the marker stands in it, and
every document that needs no file has a line that is the marker.
-/

namespace Manuscript

/-- A text is cut at a needle that is one of the runs of characters in it. -/
theorem exists_cutAt?_of_infix {needle text : List Char} (within : needle <:+: text) :
    ∃ parts, cutAt? needle text = some parts := by
  induction text with
  | nil =>
    rw [List.infix_nil.mp within]
    exact ⟨_, rfl⟩
  | cons c rest ih =>
    unfold cutAt?
    cases found : afterStart? needle (c :: rest) with
    | some after => exact ⟨_, rfl⟩
    | none =>
      rcases List.infix_cons_iff.mp within with ⟨after, front⟩ | behind
      · -- A needle in front of the text would have been found there.
        have here : afterStart? needle (c :: rest) = some after :=
          List.isPrefixOf?_eq_some_iff_append_eq.mpr front
        rw [found] at here
        cases here
      · -- Further behind it is found by the search in the rest.
        obtain ⟨parts, later⟩ := ih behind
        exact ⟨_, congrArg (Option.map _) later⟩

namespace Library

/-- Each line is one of the runs of characters in the text of the lines. -/
theorem infix_inLines {line : String} {lines : List String} (member : line ∈ lines) :
    line.toList <:+: (inLines lines).toList := by
  -- The line stands between those before it and those behind it.
  obtain ⟨front, back, rfl⟩ := List.append_of_mem member
  rw [inLines, String.toList_join, List.flatMap_map, List.flatMap_append, List.flatMap_cons,
    String.toList_append, List.append_assoc line.toList]
  exact List.infix_append' ..

/-- A document with the marker for a line has a place for the body. -/
theorem exists_parse_inLines {lines : List String} (member : contentMarker ∈ lines) :
    ∃ document, DocumentTemplate.parse (inLines lines) = .ok document := by
  obtain ⟨⟨head, tail⟩, cut⟩ := exists_cutAt?_of_infix (infix_inLines member)
  exact ⟨_, by rw [DocumentTemplate.parse, cut]⟩

/-- Every document that needs no file has a place for the body. -/
theorem exists_parse_of_document? {name text : String} (known : document? name = some text) :
    ∃ document, DocumentTemplate.parse text = .ok document := by
  -- There are three such documents, and each has a line that is the marker.
  obtain ⟨front, back, same, -⟩ := List.lookup_eq_some_iff.mp known
  have member : (name, text) ∈ documents := by
    rw [same]
    exact List.mem_append_right front List.mem_cons_self
  simp only [documents, List.mem_cons, Prod.mk.injEq, List.not_mem_nil, or_false] at member
  rcases member with ⟨-, rfl⟩ | ⟨-, rfl⟩ | ⟨-, rfl⟩ <;>
    exact exists_parse_inLines (by simp [contentMarker])

end Library

end Manuscript
