import Manuscript.Config.Key

/-! Values that are set at keys over all else: of those at one key only the last one stands. -/

namespace Manuscript

open Config

/-- Values at keys, in no order of their own. -/
structure Overrides where
  /-- The keys with their values. -/
  entries : List (Key × Value)
  /-- No key has two values. -/
  distinct : (entries.map Prod.fst).Nodup

namespace Overrides

/-- No values at all. -/
def empty : Overrides where
  entries := []
  distinct := List.Pairwise.nil

/-- The entries of a list that are at other keys than one. -/
def apartFrom (key : Key) (entries : List (Key × Value)) : List (Key × Value) :=
  entries.filter (·.1 ≠ key)

/-- The values with one more, in the place of the one that its key had. -/
def insert (overrides : Overrides) (key : Key) (value : Value) : Overrides where
  entries := apartFrom key overrides.entries ++ [(key, value)]
  distinct := by
    rw [List.map_append, List.nodup_append]
    -- What is left of the entries has none of the key.
    refine ⟨(List.filter_sublist.map Prod.fst).nodup overrides.distinct, by simp, ?_⟩
    intro other member here single same
    obtain ⟨entry, kept, rfl⟩ := List.mem_map.mp member
    have differs : entry.1 ≠ key := by simpa using (List.mem_filter.mp kept).2
    exact differs (same.trans (by simpa using single))

/-- The value at the key is the new one, and those at other keys are as before. -/
theorem mem_insert_iff {overrides : Overrides} {key other : Key} {value held : Value} :
    (other, held) ∈ (overrides.insert key value).entries ↔
      (other = key ∧ held = value) ∨ (other ≠ key ∧ (other, held) ∈ overrides.entries) := by
  simp [insert, apartFrom, or_comm, and_comm]

end Overrides

end Manuscript
