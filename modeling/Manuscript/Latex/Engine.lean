import Manuscript.Error
import Manuscript.Image.Format
import Manuscript.Unicode.Whitespace

/-! The LaTeX engines. -/

namespace Manuscript

/-- A program that makes a PDF file of a LaTeX source. -/
inductive LatexEngine where
  | xelatex
  | pdflatex
  | lualatex
  deriving DecidableEq

namespace LatexEngine

/-- All engines. -/
def all : List LatexEngine := [.xelatex, .pdflatex, .lualatex]

/-- The engine that suits most documents. -/
def standard : LatexEngine := .xelatex

instance : Inhabited LatexEngine := ⟨standard⟩

/-- The name of an engine, which is that of its program. -/
def name : LatexEngine → String
  | .xelatex => "xelatex"
  | .pdflatex => "pdflatex"
  | .lualatex => "lualatex"

/-- What is said of a name that no engine has. -/
def unsupportedReason (written : String) : String :=
  "unsupported LaTeX engine '" ++ written ++ "' (expected xelatex, pdflatex or lualatex)"

/-- The engine of a name; white space around it and the case of letters do not matter. -/
def ofText (text : String) : Except ConvertError LatexEngine :=
  let written := String.ofList (lowerAsciiChars (Unicode.trimChars text.toList))
  match all.find? (·.name = written) with
  | some engine => .ok engine
  | none => .error (.compile (unsupportedReason written))

/-- Every engine is found by its name. -/
theorem ofText_name (engine : LatexEngine) : ofText engine.name = .ok engine := by
  cases engine <;> rfl

end LatexEngine

end Manuscript
