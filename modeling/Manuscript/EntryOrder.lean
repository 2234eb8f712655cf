/-! The order in which a map is gone through that keeps its entries in none of its own. -/

namespace Manuscript

/-- An order in which the entries of a map are gone through that has none of its own. -/
structure EntryOrder (κ ν : Type) where
  /-- The entries in the order. -/
  arrange : List (κ × ν) → List (κ × ν)
  /-- Each entry comes up, and none comes up twice. -/
  perm : ∀ entries, (arrange entries).Perm entries

namespace EntryOrder

variable {κ ν : Type}

/-- The order in which the entries are listed. -/
def asListed : EntryOrder κ ν where
  arrange entries := entries
  perm entries := .refl entries

/-- The order of the keys. -/
def byKey : EntryOrder String ν where
  arrange entries := entries.mergeSort fun a b => decide (a.1 ≤ b.1)
  perm entries := List.mergeSort_perm entries _

end EntryOrder

end Manuscript
