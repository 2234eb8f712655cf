/-! Tables of rendered cells, and the lines of a tabular made of them. -/

namespace Manuscript

/-- A table whose cells are rendered. -/
structure TableAssembly where
  /-- The header cells. -/
  header : List String := []
  /-- The body rows. -/
  rows : List (List String) := []
  /-- What the source says about the alignment of each column. -/
  alignments : List (Option String) := []
  deriving DecidableEq

namespace TableAssembly

/-- How many columns a table has that has no cells. -/
def emptyColumns : Nat := 3

/-- The number of columns: that of the header, else that of the first row. -/
def columnCount (table : TableAssembly) : Nat :=
  match table.header, table.rows with
  | [], [] => emptyColumns
  | [], row :: _ => row.length
  | header, _ => header.length

/-- The column specification: bordered columns, all aligned to the left. -/
def alignmentSpec (table : TableAssembly) : String :=
  "|" ++ String.join (List.replicate table.columnCount "l|")

/-- A row of a tabular with its end. -/
def rowLine (cells : List String) : String :=
  " & ".intercalate cells ++ " \\\\"

/-- The header row, nothing when there is no header. -/
def headerLine (table : TableAssembly) : String :=
  if table.header.isEmpty then "" else rowLine table.header

/-- The body rows, one to a line. -/
def bodyLines (table : TableAssembly) : String :=
  "\n        ".intercalate (table.rows.map rowLine)

end TableAssembly

end Manuscript
