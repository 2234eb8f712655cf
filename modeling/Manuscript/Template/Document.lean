import Manuscript.Error
import Manuscript.Text.Search

/-! Document templates: what stands before and after the body. -/

namespace Manuscript

/-- The text that marks the place of the body. -/
def contentMarker : String := "<!-- INSERT_CONTENT -->"

/-- A document without its body. -/
structure DocumentTemplate where
  /-- What stands before the body. -/
  head : String
  /-- What stands after the body. -/
  tail : String
  deriving DecidableEq

namespace DocumentTemplate

/-- Cuts a document at its first marker. -/
def parse (source : String) : Except TemplateError DocumentTemplate :=
  match cutAt? contentMarker.toList source.toList with
  | some (head, tail) => .ok ⟨String.ofList head, String.ofList tail⟩
  | none => .error (.missingMarker contentMarker)

/-- The least document that can stand for itself. -/
def skeleton : DocumentTemplate :=
  ⟨"\\documentclass[UTF8, a4paper, 12pt]\x7bctexart\x7d\n\n\\usepackage\x7bamsmath\x7d\n" ++
   "\\usepackage\x7bamssymb\x7d\n\\usepackage\x7bgraphicx\x7d\n" ++
   "\\usepackage\x7bhyperref\x7d\n\n\\begin\x7bdocument\x7d\n\n",
   "\n\n\\end\x7bdocument\x7d\n"⟩

/-- The document with a body in its place. -/
def wrap (document : DocumentTemplate) (body : String) : String :=
  document.head ++ body ++ document.tail

end DocumentTemplate

end Manuscript
