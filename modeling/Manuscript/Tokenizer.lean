import Manuscript.Image.Format
import Manuscript.Markdown.Tokens
import Manuscript.Token.Reader

/-! Tokenizers by name, and which of them reads a file. -/

namespace Manuscript

/-- A way to read a source as tokens. -/
structure Tokenizer where
  /-- The name that it is chosen by. -/
  name : String
  /-- What it reads. -/
  description : String := ""
  /-- The extensions of the files it reads, without a dot. -/
  extensions : List String := []
  /-- Reads a source. -/
  tokenize : String → Except ConvertError (List Token)

/-- The tokenizer of token trees in JSON. -/
def Tokenizer.json : Tokenizer where
  name := "tokens"
  description := "JSON token tree"
  extensions := ["json"]
  tokenize := tokensOfJson

/-- The name of the tokenizer that reads what no other claims. -/
def markdownName : String := "markdown"

/-- The tokenizer of markdown. -/
def Tokenizer.markdown : Tokenizer where
  name := markdownName
  description := "CommonMark with tables and math"
  extensions := ["md", "markdown"]
  tokenize source := .ok (Markdown.tokensOfDocument (Markdown.documentOfSource source))

/--
Tokenizers of which no two have one name. They have no order of their own; that of the list is the
one in which they are gone through.
-/
abbrev Registry := List Tokenizer

namespace Registry

/-- The tokenizers that there are without adding any. -/
def standard : Registry := [.markdown, .json]

/-- The registry with a tokenizer added; it takes the place of one of the same name. -/
def register (registry : Registry) (tokenizer : Tokenizer) : Registry :=
  -- No two tokenizers have one name.
  if registry.any (·.name = tokenizer.name) then
    registry.map fun other => if other.name = tokenizer.name then tokenizer else other
  else registry ++ [tokenizer]

/-- The tokenizer of a name. -/
def get (registry : Registry) (name : String) : Except ConvertError Tokenizer :=
  match registry.find? (·.name = name) with
  | some tokenizer => .ok tokenizer
  | none => .error (.tokenizerNotFound name)

/-- The names in order. -/
def names (registry : Registry) : List String :=
  (registry.map (·.name)).mergeSort fun a b => a ≤ b

/-- The tokenizer that claims the extension of a path. -/
def detect? (registry : Registry) (path : Path) : Option Tokenizer :=
  path.extension?.bind fun extension =>
    registry.find? fun tokenizer =>
      -- Extensions count in any case.
      tokenizer.extensions.any (·.toList = lowerAsciiChars extension)

/-- The tokenizer of a path: the one that claims its extension, else the one for markdown. -/
def forPath (registry : Registry) (path : Path) : Except ConvertError Tokenizer :=
  match registry.detect? path with
  | some tokenizer => .ok tokenizer
  | none => registry.get markdownName

end Registry

end Manuscript
