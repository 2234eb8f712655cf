import Manuscript.Unicode.Whitespace

/-! Sectioning commands by heading level. -/

namespace Manuscript

/-- How many sectioning levels a document has. -/
abbrev sectioningLevels : Nat := 5

/-- One sectioning command for each level. -/
structure HeadingCommands where
  /-- The commands from the outermost to the deepest. -/
  commands : Vector String sectioningLevels
  deriving DecidableEq

namespace HeadingCommands

/-- The commands of an article. -/
def standard : HeadingCommands :=
  ⟨#v["section", "subsection", "subsubsection", "paragraph", "subparagraph"]⟩

instance : Inhabited HeadingCommands := ⟨standard⟩

/-- Exactly one name per level makes a table; blanks around a name do not count. -/
def ofList? (names : List String) : Option HeadingCommands :=
  let trimmed := (names.map Unicode.trim).toArray
  -- The size is kept as a proof, so that every level has its command.
  if size : trimmed.size = sectioningLevels then some ⟨⟨trimmed, size⟩⟩ else none

/-- The place of a level in the table: the level 0 counts as 1, and deep levels as the deepest. -/
def index (level : Nat) : Fin sectioningLevels :=
  ⟨min (max level 1) sectioningLevels - 1, by simp only [sectioningLevels]; omega⟩

/-- The command that opens a heading of a level. -/
def command (table : HeadingCommands) (level : Nat) : String :=
  table.commands[index level]

end HeadingCommands

end Manuscript
