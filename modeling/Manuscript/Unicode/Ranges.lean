/-! Character classes given as sorted lists of inclusive code point ranges. -/

namespace Manuscript.Unicode

/-- A class of characters, as inclusive ranges of code points. -/
abbrev Ranges := List (Nat × Nat)

/-- A character belongs to a class when one of its ranges holds its code point. -/
def Ranges.has (ranges : Ranges) (c : Char) : Bool :=
  ranges.any fun range => range.1 ≤ c.toNat && c.toNat ≤ range.2

end Manuscript.Unicode
