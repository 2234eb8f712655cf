import Manuscript.Duration
import Manuscript.Path

/-! What can go wrong with a conversion or a template, and how it is said. -/

namespace Manuscript

/-- Why a conversion failed. -/
inductive ConvertError where
  /-- A file could not be read or written. -/
  | io (path : Path) (reason : String)
  /-- No tokenizer has the name. -/
  | tokenizerNotFound (name : String)
  /-- A tokenizer did not accept its input. -/
  | tokenize (reason : String)
  /-- The engine is missing or did not succeed. -/
  | compile (reason : String)
  /-- An image could not be converted. -/
  | image (reason : String)
  /-- A tool ran longer than it may. -/
  | timeout (tool : String) (limit : Duration)
  deriving DecidableEq

/-- What is printed for an error. -/
def ConvertError.message : ConvertError → String
  | .io path reason => "I/O error on '" ++ path.text ++ "': " ++ reason
  | .tokenizerNotFound name => "Tokenizer '" ++ name ++ "' not found"
  | .tokenize reason => "Tokenize error: " ++ reason
  | .compile reason => "Compile error: " ++ reason
  | .image reason => "Image conversion error: " ++ reason
  | .timeout tool limit => tool ++ " did not finish within " ++ limit.text ++ " and was killed"

/-- Why a template was not accepted. -/
inductive TemplateError where
  /-- A template names a placeholder that its construct does not offer. -/
  | unknownPlaceholder (construct placeholder : String)
  /-- A document template has no place for the body. -/
  | missingMarker (marker : String)
  deriving DecidableEq

/-- What is printed for a template error. -/
def TemplateError.message : TemplateError → String
  | .unknownPlaceholder construct placeholder =>
    "Template for '" ++ construct ++ "' uses unknown placeholder '<" ++ placeholder ++ ">'"
  | .missingMarker marker => "Document template has no '" ++ marker ++ "' marker"

end Manuscript
