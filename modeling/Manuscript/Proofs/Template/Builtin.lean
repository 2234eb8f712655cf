import Manuscript.Template.Builtin

/-!
The templates that need no configuration, read from lists of characters: reading the characters off
their texts is slow where it is computed.
-/

namespace Manuscript

/-- Texts one after another are spelled one after another. -/
theorem append_eq_ofList {front back : String} {chars chars' : List Char}
    (first : front = String.ofList chars) (last : back = String.ofList chars') :
    front ++ back = String.ofList (chars ++ chars') := by
  rw [first, last, String.ofList_append]

/-- The placeholders of the slots in the template that a construct starts with, in order. -/
def Construct.slots : Construct → List Placeholder
  | .heading => [.headingType, .text]
  | .link => [.url, .text]
  | .image => [.url, .alt, .label]
  | .blockCode => [.code]
  | .blockCodeWithLang => [.lang, .code]
  | .table => [.counter, .counter, .alignment, .header, .body]
  | .linebreak | .softbreak | .thematicBreak | .blankLine => []
  | _ => [.text]

namespace Template

/-- The template that a construct starts with when its text has some characters. -/
def spelled (construct : Construct) (chars : List Char) : Template :=
  match segmentsOf construct chars with
  | .ok segments => ⟨segments⟩
  | .error _ => ⟨[.literal chars]⟩

/-- The template that a construct starts with is read from the characters of its text. -/
theorem builtin_eq_spelled (construct : Construct) {chars : List Char}
    (text : construct.defaultTemplate = String.ofList chars) :
    builtin construct = spelled construct chars := by
  unfold builtin parse spelled
  rw [text, String.toList_ofList]
  -- Both take the segments of the text, or none.
  cases segmentsOf construct chars <;> rfl

/-- The parts of the template that a construct starts with are read off the characters, too. -/
theorem segments_builtin {construct : Construct} {chars : List Char} {segments : List Segment}
    (text : construct.defaultTemplate = String.ofList chars)
    (read : (spelled construct chars).segments = segments) :
    (builtin construct).segments = segments := by
  rw [builtin_eq_spelled construct text, read]

/-- The placeholders of the slots of a template, in order. -/
def slots (template : Template) : List Placeholder :=
  template.segments.filterMap fun segment =>
    match segment with
    | .literal _ => none
    | .slot placeholder => some placeholder

/-- The slots of the templates that constructs start with. -/
theorem slots_builtin (construct : Construct) : (builtin construct).slots = construct.slots := by
  -- Once a template is spelled out, its slots can be computed.
  cases construct
  case image =>
    rw [builtin_eq_spelled .image (append_eq_ofList (append_eq_ofList rfl rfl) rfl)]
    decide +kernel
  case table =>
    rw [builtin_eq_spelled .table (append_eq_ofList
      (append_eq_ofList (append_eq_ofList (append_eq_ofList rfl rfl) rfl) rfl) rfl)]
    decide +kernel
  all_goals
    rw [builtin_eq_spelled _ rfl]
    decide +kernel

end Template

end Manuscript
