import Manuscript.Json.Value
import Manuscript.Unicode.Whitespace

/-! The attributes of a token, and what is read from them. -/

namespace Manuscript

/-- Attributes by name, in the order of their names, each name once. -/
structure Attrs where
  /-- The names with their values. -/
  entries : List (String × Json.Value)
  /-- The names rise strictly. -/
  ordered : entries.Pairwise fun a b => a.1 < b.1

/-- A member that was inserted is the new one or one of the old ones. -/
theorem Json.mem_insertMember {α : Type} {key : String} {value : α}
    {members : List (String × α)} {entry : String × α}
    (found : entry ∈ Json.insertMember key value members) :
    entry = (key, value) ∨ entry ∈ members := by
  -- The first key that is not below the new one tells its place.
  induction members with
  | nil => simpa [Json.insertMember] using found
  | cons head rest ih =>
    rcases head with ⟨other, held⟩
    simp only [Json.insertMember] at found
    split at found
    · simpa using found
    split at found
    · simp only [List.mem_cons] at found ⊢
      rcases found with new | old
      · exact .inl new
      · exact .inr (.inr old)
    · simp only [List.mem_cons] at found ⊢
      rcases found with same | later
      · exact .inr (.inl same)
      · rcases ih later with new | old
        · exact .inl new
        · exact .inr (.inr old)

/-- Two strings that are not in one order are the same or in the other order. -/
theorem lt_of_not_lt_of_ne {a b : String} (notBelow : ¬ a < b) (other : a ≠ b) : b < a := by
  rcases String.le_total a b with below | above
  · exact absurd (String.le_antisymm below (String.not_lt.mp notBelow)) other
  · exact String.not_le.mp fun below => other (String.le_antisymm below above)

/-- Inserting keeps the order of the keys. -/
theorem Json.ordered_insertMember {α : Type} (key : String) (value : α)
    {members : List (String × α)} (ordered : members.Pairwise fun a b => a.1 < b.1) :
    (Json.insertMember key value members).Pairwise fun a b => a.1 < b.1 := by
  induction members with
  | nil => simp [Json.insertMember]
  | cons head rest ih =>
    rcases head with ⟨other, held⟩
    have ⟨above, tail⟩ := List.pairwise_cons.mp ordered
    simp only [Json.insertMember]
    split
    -- A key below the first one is below all of them.
    · rename_i below
      refine List.pairwise_cons.mpr ⟨fun entry found => ?_, ordered⟩
      simp only [List.mem_cons] at found
      rcases found with rfl | later
      · exact below
      · exact String.lt_trans below (above entry later)
    split
    -- The same key stays where it stood.
    · rename_i same
      subst same
      exact List.pairwise_cons.mpr ⟨above, tail⟩
    -- A greater key goes in further behind.
    · rename_i notBelow notSame
      refine List.pairwise_cons.mpr ⟨fun entry found => ?_, ih tail⟩
      rcases Json.mem_insertMember found with rfl | later
      · exact lt_of_not_lt_of_ne notBelow notSame
      · exact above entry later

/-- The entry in front is found by its key, and what is behind it by any other. -/
theorem lookup_cons_eq_ite {α : Type} (key other : String) (value : α)
    (members : List (String × α)) :
    ((key, value) :: members).lookup other =
      if other = key then some value else members.lookup other := by
  by_cases same : other = key
  · rw [if_pos same, List.lookup_cons, beq_iff_eq.mpr same]
  · rw [if_neg same, List.lookup_cons, beq_eq_false_iff_ne.mpr same]

/-- A member that was inserted is found by its key, and the others are found as before. -/
theorem Json.lookup_insertMember {α : Type} (key other : String) (value : α)
    (members : List (String × α)) :
    (Json.insertMember key value members).lookup other =
      if other = key then some value else members.lookup other := by
  induction members with
  | nil => exact lookup_cons_eq_ite key other value []
  | cons head rest ih =>
    rcases head with ⟨first, held⟩
    simp only [Json.insertMember]
    split
    · exact lookup_cons_eq_ite key other value _
    split
    -- The new member takes the place of one that had its key.
    · rename_i replaced
      subst replaced
      simp only [lookup_cons_eq_ite]
      split <;> rfl
    -- What stands in front of it keeps its own key.
    · rename_i distinct
      simp only [lookup_cons_eq_ite, ih]
      by_cases here : other = first
      · rw [if_pos here, if_neg fun same => distinct (same.symm.trans here), if_pos here]
      · rw [if_neg here, if_neg here]

namespace Attrs

/-- No attributes. -/
def empty : Attrs := ⟨[], .nil⟩

instance : EmptyCollection Attrs := ⟨empty⟩

instance : Inhabited Attrs := ⟨empty⟩

/-- The attributes with one set. -/
def insert (attrs : Attrs) (name : String) (value : Json.Value) : Attrs :=
  ⟨Json.insertMember name value attrs.entries, Json.ordered_insertMember name value attrs.ordered⟩

/-- The attributes of a list, of which the last of one name counts. -/
def ofList (entries : List (String × Json.Value)) : Attrs :=
  entries.foldl (fun attrs entry => attrs.insert entry.1 entry.2) empty

/-- The value of an attribute. -/
def get? (attrs : Attrs) (name : String) : Option Json.Value := attrs.entries.lookup name

/-- An attribute that was set has its new value, and the others have theirs. -/
theorem get?_insert (attrs : Attrs) (name other : String) (value : Json.Value) :
    (attrs.insert name value).get? other = if other = name then some value else attrs.get? other :=
  Json.lookup_insertMember name other value attrs.entries

/-- The text of an attribute; a value that is no string counts as missing. -/
def text? (attrs : Attrs) (name : String) : Option String :=
  match attrs.get? name with
  | some (.string s) => some s
  | _ => none

/-- The greatest number that is told apart; all greater ones count as this one. -/
def greatestCount : Nat := 0xffffffffffffffff

/-- The number that a numeral stands for: digits only, behind an optional plus sign. -/
def countOfNumeral? (text : List Char) : Option Nat :=
  let digits :=
    match text with
    | '+' :: rest => rest
    | _ => text
  if digits ≠ [] ∧ digits.all Char.isDigit then
    let n := digits.foldl (fun acc c => acc * 10 + (c.toNat - '0'.toNat)) 0
    -- A numeral that is too large is no number, while a number that is too large is the greatest.
    if n ≤ greatestCount then some n else none
  else none

/-- The count that a number stands for: what is below zero has none, and a fraction is cut off. -/
def countOfNumber? : Json.Number → Option Nat
  | .natural n => some (min n greatestCount)
  | .negative _ => none
  | .float isNegative size =>
    -- A negative zero is zero.
    if isNegative ∧ size.mantissa ≠ 0 then none else some (min size.floor greatestCount)

/-- The count in an attribute, given as a number or as a numeral between blanks. -/
def count? (attrs : Attrs) (name : String) : Option Nat :=
  match attrs.get? name with
  | some (.number n) => countOfNumber? n
  | some (.string s) => countOfNumeral? (Unicode.trimChars s.toList)
  | _ => none

/-- An attribute is set to true. -/
def flag (attrs : Attrs) (name : String) : Bool :=
  match attrs.get? name with
  | some (.bool b) => b
  | _ => false

/-- There are no attributes. -/
def isEmpty (attrs : Attrs) : Bool := attrs.entries.isEmpty

end Attrs

end Manuscript
