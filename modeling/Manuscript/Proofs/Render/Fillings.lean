import Manuscript.Proofs.Render.Session
import Manuscript.Proofs.Template.NormalForm

/-!
No slot of a template is left without a value: a template uses only what its construct offers, and
whoever fills the template of a construct gives a value for all of that.
-/

namespace Manuscript

namespace Template

/-- A template that was read for a construct uses only what the construct offers. -/
theorem mem_placeholders_of_parse {construct : Construct} {source : String} {template : Template}
    (read : parse construct source = .ok template) {placeholder : Placeholder}
    (used : template.uses placeholder = true) : placeholder ∈ construct.placeholders := by
  have member : .slot placeholder ∈ template.segments := List.contains_iff_mem.mp used
  -- A template that can be read has slots for what its construct offers only.
  have normal := isNormal_of_segmentsOf (parse_eq_ok_iff.mp read)
  exact List.contains_iff_mem.mp (normal.fits _ member)

/-- The template that a construct starts with uses only what the construct offers. -/
theorem mem_placeholders_of_builtin {construct : Construct} {placeholder : Placeholder}
    (used : (builtin construct).uses placeholder = true) :
    placeholder ∈ construct.placeholders :=
  mem_placeholders_of_parse (parse_defaultTemplate construct) used

end Template

namespace TemplateSet

/-- In the templates of a configuration each uses only what its construct offers. -/
theorem mem_placeholders_of_ofMap {map : ConfigMap} {construct : Construct}
    {placeholder : Placeholder} (used : ((ofMap map).get construct).uses placeholder = true) :
    placeholder ∈ construct.placeholders := by
  -- An entry that parsed uses what is offered; in its absence the built-in template does.
  have chosen : (ofMap map).get construct = chosen map construct := rfl
  rw [chosen] at used
  unfold TemplateSet.chosen at used
  split at used
  · rename_i template read
    obtain ⟨text, -, parsed⟩ := Option.map_eq_some_iff.mp read
    exact Template.mem_placeholders_of_parse parsed used
  · exact Template.mem_placeholders_of_builtin used

end TemplateSet

/--
Whatever calls a renderer over the templates of a configuration answers, and whatever tokens it is
given, every template that it fills gets a value for each of its slots: it gets one for every
placeholder that its construct offers, and uses no others.
-/
theorem performAll_fills_every_slot (map : ConfigMap) (options : RenderOptions)
    (calls : List Call) :
    let templates := TemplateSet.ofMap map
    let r := Renderer.ofTemplates templates options
    let done := (Call.performAll r calls).run {}
    let answers := thread (fun tables call => call.answer r tables) 0 calls
    (done.1 = answers.1 ∧ done.2.tables = answers.2) ∧
      ∀ filling ∈ done.2.fillings,
        (∀ placeholder ∈ filling.construct.placeholders,
          ∃ value, filling.values.lookup placeholder = some value) ∧
        ∀ placeholder, Segment.slot placeholder ∈ (templates.get filling.construct).segments →
          placeholder ∈ filling.construct.placeholders ∧
            ∃ value, filling.values.lookup placeholder = some value := by
  intro templates r done answers
  -- The whole run ends with what was filled in, and each filling was complete when it was made.
  obtain ⟨made, complete, run⟩ := Call.performAll_matches r calls 0
  have ended : done = (answers.1, ⟨answers.2, 0, made ++ []⟩) := run []
  rw [ended]
  refine ⟨⟨rfl, rfl⟩, fun filling member => ?_⟩
  have supplied : ∀ placeholder ∈ filling.construct.placeholders,
      ∃ value, filling.values.lookup placeholder = some value := by
    intro placeholder offered
    rw [List.append_nil] at member
    exact Option.isSome_iff_exists.mp (complete filling member placeholder offered)
  refine ⟨supplied, fun placeholder slot => ?_⟩
  -- A slot stands for a placeholder that the template uses.
  have offered : placeholder ∈ filling.construct.placeholders :=
    TemplateSet.mem_placeholders_of_ofMap (List.contains_iff_mem.mpr slot)
  exact ⟨offered, supplied placeholder offered⟩

/-- A table with a header cell, and a row whose cell is marked as one. -/
def markedTable : Token where
  kind := .table
  children? := some
    [{ kind := .tableHead,
       children? := some [{ kind := .tableCell, children? := some [.ofText "a"] }] },
     { kind := .tableBody,
       children? := some
        [{ kind := .tableRow,
           children? := some
            [{ kind := .tableCell, children? := some [.ofText "b"],
               attrs := Attrs.empty.insert "head" (.bool true) }] }] }]

/-- A table and a listing fill the templates of their parts, those of the parts inside first, and
none of them is left with an empty slot. -/
theorem performAll_fills_every_slot_markedTable :
    let map := [("table", "<counter>: <header> / <body>"), ("strong", "*<text>*"),
      ("text", "<oops>")]
    let calls := [.token markedTable, .construct (.blockCode "c" (some "rust"))]
    let done := (Call.performAll (.ofTemplates (.ofMap map) {}) calls).run {}
    (done.2.fillings.map fun filling => (filling.construct, filling.values)).reverse =
        [(.text, [(.text, "a")]), (.strong, [(.text, "a")]),
         (.text, [(.text, "b")]), (.strong, [(.text, "b")]),
         (.table, [(.counter, "1"), (.alignment, "|l|"), (.header, "*a* \\\\"),
            (.body, "*b* \\\\")]),
         (.blockCodeWithLang, [(.lang, "C"), (.code, "c")])] ∧
      ∀ filling ∈ done.2.fillings, ∀ placeholder,
        Segment.slot placeholder ∈ ((TemplateSet.ofMap map).get filling.construct).segments →
          ∃ value, filling.values.lookup placeholder = some value := by
  intro map calls done
  -- The template that cannot be read is replaced, and has its slots filled as well.
  have complete := (performAll_fills_every_slot map {} calls).2
  refine ⟨by decide +kernel, fun filling member placeholder slot => ?_⟩
  exact ((complete filling member).2 placeholder slot).2

end Manuscript
