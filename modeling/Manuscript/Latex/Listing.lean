import Manuscript.Unicode.Lowercase
import Manuscript.Unicode.Whitespace

/-! The language of a listing, from the info string of a code block. -/

namespace Manuscript

/-- The language that listings are set in for a tag in lower case, where it differs from the tag. -/
def languageFor? (tag : String) : Option String :=
  if ["javascript", "js", "typescript", "ts", "jsx", "tsx", "kotlin", "dart", "scala"].contains tag
  then some "Java"
  else if ["vue", "svelte"].contains tag then some "HTML"
  else if tag = "php" then some "PHP"
  else if tag = "ruby" then some "Ruby"
  else if ["go", "rust", "swift"].contains tag then some "C"
  else if tag = "clojure" then some "Lisp"
  else if tag = "elixir" then some "Erlang"
  else if tag = "haskell" then some "Haskell"
  else if ["ocaml", "fsharp"].contains tag then some "ML"
  else if ["powershell", "dockerfile"].contains tag then some "bash"
  else if ["yaml", "yml", "toml", "json"].contains tag then some "XML"
  else if ["markdown", "md", "tex", "latex"].contains tag then some "TeX"
  else none

/-- The language of a code block: none for a missing or blank tag, else its alias or itself. -/
def listingLanguage? (info : Option String) : Option String :=
  match info.map Unicode.trim with
  | none => none
  | some tag => if tag.isEmpty then none else some ((languageFor? (Unicode.lower tag)).getD tag)

end Manuscript
