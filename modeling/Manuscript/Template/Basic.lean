import Manuscript.Error
import Manuscript.Template.Construct

/-! Templates: literal text with slots, their reading for a construct, and their filling. -/

namespace Manuscript

/-- A part of a template. -/
inductive Segment where
  /-- Text that is written as it stands. -/
  | literal (text : List Char)
  /-- A place for a value. -/
  | slot (placeholder : Placeholder)
  deriving DecidableEq

/-- A template, as the parts that it is written from. -/
structure Template where
  /-- The parts in order. -/
  segments : List Segment
  deriving DecidableEq

/-- A character of a placeholder name. -/
def isNameChar (c : Char) : Bool := c.isLower || c = '_'

/-- A name in angle brackets at the front of a text, and the text behind it. -/
def bracketedName? : List Char → Option (List Char × List Char)
  | '<' :: rest =>
    match rest.takeWhile isNameChar, rest.dropWhile isNameChar with
    -- Brackets without a name in them are text.
    | [], _ => none
    | name, '>' :: after => some (name, after)
    | _, _ => none
  | _ => none

/-- Behind a bracketed name the text is shorter. -/
theorem bracketedName?_shorter {text name after : List Char}
    (found : bracketedName? text = some (name, after)) : after.length < text.length := by
  -- What follows the name is a part of what follows the opening bracket.
  unfold bracketedName? at found
  split at found
  · rename_i rest
    have shorter := (List.dropWhile_sublist (l := rest) isNameChar).length_le
    split at found
    · simp at found
    · simp_all
      omega
    · simp at found
  · simp at found

/-- A character in front of the parts of a template. -/
def consLiteral (c : Char) : List Segment → List Segment
  | .literal text :: rest => .literal (c :: text) :: rest
  | segments => .literal [c] :: segments

/-- The placeholder of a name, when the construct offers it. -/
def placeholderOf (construct : Construct) (name : List Char) : Except TemplateError Placeholder :=
  match (Placeholder.ofName? (String.ofList name)).filter construct.accepts with
  | some placeholder => .ok placeholder
  | none => .error (.unknownPlaceholder construct.key (String.ofList name))

/-- The parts of a template text; the first name that the construct does not offer is an error. -/
def segmentsOf (construct : Construct) (text : List Char) : Except TemplateError (List Segment) :=
  match text with
  | [] => .ok []
  | c :: rest =>
    match _found : bracketedName? (c :: rest) with
    | some (name, after) => do
      -- A name in brackets has to be one that is offered, and is never text.
      let placeholder ← placeholderOf construct name
      let segments ← segmentsOf construct after
      return .slot placeholder :: segments
    | none => do
      let segments ← segmentsOf construct rest
      return consLiteral c segments
termination_by text.length
decreasing_by
  · exact bracketedName?_shorter _found
  · simp

/--
A value for each placeholder that has one; of two values for one placeholder the first counts.
-/
abbrev Values := List (Placeholder × String)

namespace Template

/-- Reads the template of a construct. -/
def parse (construct : Construct) (source : String) : Except TemplateError Template :=
  (segmentsOf construct source.toList).map Template.mk

/-- The value that a slot is filled with, empty when there is none. -/
def valueOf (values : Values) (placeholder : Placeholder) : String :=
  (values.lookup placeholder).getD ""

/-- What is written for a part of a template. -/
def fillSegment (values : Values) : Segment → String
  | .literal text => String.ofList text
  | .slot placeholder => valueOf values placeholder

/-- The template with its slots filled; text that is filled in is not looked at again. -/
def render (template : Template) (values : Values) : String :=
  String.join (template.segments.map (fillSegment values))

/-- A template has a slot for a placeholder. -/
def uses (template : Template) (placeholder : Placeholder) : Bool :=
  template.segments.contains (.slot placeholder)

end Template

end Manuscript
