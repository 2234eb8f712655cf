import Manuscript.Path
import Manuscript.Text.Search
import Manuscript.Unicode.Lowercase

/-! How a document refers to an image: its path as LaTeX finds it, and its label. -/

namespace Manuscript

/-- A start of relative image paths that is replaced by another. -/
structure PathRule where
  /-- The start that the rule looks for. -/
  source : String
  /-- What takes its place. -/
  target : String
  deriving DecidableEq

/-- A path under one rule, when the path starts as the rule says. -/
def PathRule.replaced? (rule : PathRule) (url : String) : Option String :=
  (afterStart? rule.source.toList url.toList).map fun rest => rule.target ++ String.ofList rest

/-- A path under the first rule that fits; an absolute path is left alone. -/
def resolveImagePath (rules : List PathRule) (url : String) : String :=
  -- The rules are for paths that start where the source stands.
  if (Path.ofString url).isAbsolute then url
  else (rules.findSome? (·.replaced? url)).getD url

/-- The characters that may stand in a label. -/
def isLabelChar (c : Char) : Bool := c.isAlphanum

/--
The label of a figure: its caption in lower case, with an underscore for all but letters and digits.
-/
def figureLabel (caption : String) : String :=
  String.ofList ((Unicode.lower caption).toList.map fun c => if isLabelChar c then c else '_')

end Manuscript
