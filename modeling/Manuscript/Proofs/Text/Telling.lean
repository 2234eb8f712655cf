import Mathlib.Data.List.Forall2

/-!
Ways of writing that tell values apart: lesser values are written in no more characters, and two
values that are written in the same way are the same.
-/

namespace Manuscript

variable {α : Type} {Below : α → α → Prop} {write : α → String}

/-- A text is no longer than another one. -/
def NoLonger (text other : String) : Prop := text.length ≤ other.length

/-- A way of writing tells values apart of which one is below the other. -/
def Tells (Below : α → α → Prop) (write : α → String) : Prop :=
  ∀ ⦃value other : α⦄, Below value other →
    NoLonger (write value) (write other) ∧ (write value = write other → value = other)

/-- Texts in a row that are no longer than others are the same as these only one by one. -/
theorem append_eq_append_of_noLonger {front front' back back' : String}
    (short : NoLonger front front') (shortBack : NoLonger back back')
    (same : front ++ back = front' ++ back') : front = front' ∧ back = back' := by
  have lengths := congrArg String.length same
  simp only [String.length_append] at lengths
  unfold NoLonger at short shortBack
  -- Both parts are as long as their counterparts, as neither makes up for the other.
  have frontLength : front.toList.length = front'.toList.length := by
    simp only [String.length_toList]
    omega
  have lists : front.toList ++ back.toList = front'.toList ++ back'.toList := by
    rw [← String.toList_append, ← String.toList_append, same]
  obtain ⟨fronts, backs⟩ := List.append_inj lists frontLength
  exact ⟨String.toList_inj.mp fronts, String.toList_inj.mp backs⟩

/-- Parts that are no longer make up a text that is no longer. -/
theorem NoLonger.append {front front' back back' : String} (short : NoLonger front front')
    (shortBack : NoLonger back back') : NoLonger (front ++ back) (front' ++ back') := by
  unfold NoLonger at *
  simp only [String.length_append]
  omega

/-- A text is no longer than itself. -/
theorem NoLonger.refl (text : String) : NoLonger text text := Nat.le_refl _

/-- Texts tell themselves apart. -/
theorem tells_id : Tells NoLonger id := fun _ _ short => ⟨short, id⟩

/-- Decimal numerals tell numbers apart. -/
theorem tells_toString : Tells (fun number other : Nat => number ≤ other) toString := by
  intro number other below
  constructor
  · -- A number has no more digits than a number above it.
    refine (Nat.length_repr_le_iff Nat.length_repr_pos).mpr (Nat.lt_of_le_of_lt below ?_)
    exact (Nat.length_repr_le_iff Nat.length_repr_pos).mp (Nat.le_refl _)
  · intro same
    -- Both numbers are what their common numeral stands for.
    have values := congrArg (fun numeral => Nat.ofDigitChars 10 numeral.toList 0) same
    simpa using values

/-- Values between fixed texts are told apart. -/
theorem Tells.enclose (tells : Tells Below write) (front back : String) :
    Tells Below fun value => front ++ write value ++ back := by
  -- The fixed texts come off both sides, as the lengths leave no choice where they end.
  intro value other below
  obtain ⟨short, same⟩ := tells below
  have shortFront := (NoLonger.refl front).append short
  refine ⟨shortFront.append (.refl back), fun equal => same ?_⟩
  obtain ⟨fronts, -⟩ := append_eq_append_of_noLonger shortFront (.refl back) equal
  exact (append_eq_append_of_noLonger (.refl front) short fronts).2

/-- Values one after another with a separator are told apart. -/
theorem Tells.intercalate (tells : Tells Below write) (separator : String) :
    Tells (List.Forall₂ Below) fun values => separator.intercalate (values.map write) := by
  intro values others below
  -- No part is longer than its counterpart, so that equal wholes have equal parts.
  induction below with
  | nil => exact ⟨.refl _, fun _ => rfl⟩
  | @cons value other rest others first below ih =>
    obtain ⟨short, same⟩ := tells first
    cases below with
    | nil =>
      simp only [List.map_cons, List.map_nil, String.intercalate_singleton]
      exact ⟨short, fun equal => by rw [same equal]⟩
    | cons second below =>
      obtain ⟨shortRest, sameRest⟩ := ih
      simp only [List.map_cons, String.intercalate_cons_cons] at shortRest sameRest ⊢
      -- A separator follows the first text, as long on both sides.
      have shortFront := short.append (.refl separator)
      refine ⟨shortFront.append shortRest, fun equal => ?_⟩
      obtain ⟨fronts, backs⟩ := append_eq_append_of_noLonger shortFront shortRest equal
      rw [same (append_eq_append_of_noLonger short (.refl separator) fronts).1, sameRest backs]

end Manuscript
