import Manuscript.Template.Builtin

/-! A template for every construct, as a configuration chooses them. -/

namespace Manuscript

/-- A flat configuration: template texts by key; of two entries with one key the first counts. -/
abbrev ConfigMap := List (String × String)

namespace ConfigMap

/-- The map with an entry set: an entry of the same key is replaced where it stands. -/
def set (map : ConfigMap) (key value : String) : ConfigMap :=
  if map.any (·.1 = key) then map.map fun entry => if entry.1 = key then (key, value) else entry
  else map ++ [(key, value)]

/-- The map with all entries of another set over it. -/
def overlay (map other : ConfigMap) : ConfigMap :=
  other.foldl (fun acc entry => set acc entry.1 entry.2) map

end ConfigMap

/-- One template for each construct. -/
structure TemplateSet where
  /-- The template of a construct. -/
  get : Construct → Template

namespace TemplateSet

/-- The templates that the constructs start with. -/
def builtin : TemplateSet := ⟨Template.builtin⟩

instance : Inhabited TemplateSet := ⟨builtin⟩

/-- The set with the template of one construct replaced. -/
def set (templates : TemplateSet) (construct : Construct) (template : Template) : TemplateSet :=
  ⟨fun other => if other = construct then template else templates.get other⟩

/-- The template that a configuration gives a construct: its entry when that can be read. -/
def chosen (map : ConfigMap) (construct : Construct) : Template :=
  match (map.lookup construct.key).map (Template.parse construct) with
  | some (.ok template) => template
  -- A text that is no template counts as if it were not there.
  | _ => .builtin construct

/-- The templates of a configuration; keys that name no construct do not matter. -/
def ofMap (map : ConfigMap) : TemplateSet := ⟨chosen map⟩

/-- Why the entry of a construct was not used. -/
def rejection? (map : ConfigMap) (construct : Construct) : Option TemplateError :=
  match (map.lookup construct.key).map (Template.parse construct) with
  | some (.error error) => some error
  | _ => none

/-- The constructs in the order of their keys. -/
def keyOrder : List Construct :=
  Construct.all.mergeSort fun a b => a.key ≤ b.key

/-- The entries that were not used, in the order of their keys. -/
def rejections (map : ConfigMap) : List TemplateError :=
  keyOrder.filterMap (rejection? map)

/-- What is written for a construct. -/
def fill (templates : TemplateSet) (construct : Construct) (values : Values) : String :=
  (templates.get construct).render values

end TemplateSet

end Manuscript
