import Manuscript.Proofs.Template.BracketedName
import Mathlib.Data.Nat.Find

/-!
Reading the text of a template: it is accepted when every bracketed name in it is offered, and a
refusal is about the first name that is not.
-/

namespace Manuscript

/-- A placeholder is found under its name only. -/
theorem Placeholder.ofName?_eq_some_iff {name : String} {placeholder : Placeholder} :
    Placeholder.ofName? name = some placeholder ↔ placeholder.name = name := by
  -- No two placeholders share a name, so the search finds the only one that has it.
  constructor
  · intro found
    simpa using List.find?_some found
  · rintro rfl
    exact Placeholder.ofName?_name placeholder

/-- A construct offers a placeholder of this name. -/
def Construct.Offers (construct : Construct) (name : List Char) : Prop :=
  ∃ placeholder, construct.accepts placeholder = true ∧ placeholder.name.toList = name

/-- The first bracketed name of a text that a construct does not offer. -/
structure FirstUnoffered (construct : Construct) (text : List Char) (position : Nat)
    (name : List Char) : Prop where
  /-- The name stands there in brackets. -/
  stands : NameAt text position name
  /-- The construct has no such placeholder. -/
  unoffered : ¬ construct.Offers name
  /-- All others stand further on. -/
  first : ∀ later other, NameAt text later other → ¬ construct.Offers other → position ≤ later

/-- Looking up a name gives the placeholder of that name, when the construct offers it. -/
theorem placeholderOf_eq_ok_iff {construct : Construct} {name : List Char}
    {placeholder : Placeholder} :
    placeholderOf construct name = .ok placeholder ↔
      construct.accepts placeholder = true ∧ placeholder.name.toList = name := by
  -- The name as a string is the name as a list of characters.
  have named : placeholder.name = String.ofList name ↔ placeholder.name.toList = name := by
    rw [← String.toList_inj, String.toList_ofList]
  have filtered : (Placeholder.ofName? (String.ofList name)).filter construct.accepts =
      some placeholder ↔ construct.accepts placeholder = true ∧ placeholder.name.toList = name := by
    rw [Option.filter_eq_some_iff, Placeholder.ofName?_eq_some_iff, named, and_comm]
  rw [← filtered]
  -- What has the name counts only where the construct offers it.
  unfold placeholderOf
  split
  · rename_i found
    simp [found]
  · rename_i missing
    simp [missing]

/-- Looking up a name fails when it is not offered, and the failure says which name it was. -/
theorem placeholderOf_eq_error_iff {construct : Construct} {name : List Char}
    {error : TemplateError} :
    placeholderOf construct name = .error error ↔
      ¬ construct.Offers name ∧
        error = .unknownPlaceholder construct.key (String.ofList name) := by
  -- A lookup that succeeds has found an offered placeholder, and one that fails has none.
  cases looked : placeholderOf construct name with
  | ok placeholder =>
    have offered : construct.Offers name := ⟨placeholder, placeholderOf_eq_ok_iff.mp looked⟩
    simp [offered]
  | error other =>
    have unoffered : ¬ construct.Offers name := by
      rintro ⟨placeholder, offered⟩
      rw [placeholderOf_eq_ok_iff.mpr offered] at looked
      cases looked
    -- The look-up has a single way to fail.
    have reason : other = .unknownPlaceholder construct.key (String.ofList name) := by
      unfold placeholderOf at looked
      split at looked
      · cases looked
      · exact (Except.error.inj looked).symm
    simp [unoffered, reason, eq_comm]

/-- An empty text has no parts. -/
theorem segmentsOf_nil (construct : Construct) : segmentsOf construct [] = .ok [] := by
  rw [segmentsOf]

/-- A bracketed name is a slot in front of the parts of what follows it. -/
theorem segmentsOf_bracket (construct : Construct) {name after : List Char}
    (valid : IsBracketName name) :
    segmentsOf construct ('<' :: (name ++ '>' :: after)) = (do
      let placeholder ← placeholderOf construct name
      let segments ← segmentsOf construct after
      return .slot placeholder :: segments) := by
  -- The name is found as it stands, so that the other cases do not come up.
  have found : bracketedName? ('<' :: (name ++ '>' :: after)) = some (name, after) :=
    bracketedName?_eq_some_iff.mpr ⟨valid, rfl⟩
  rw [segmentsOf]
  split
  · rename_i other behind again
    rw [found] at again
    cases again
    rfl
  · rename_i missing
    rw [found] at missing
    cases missing

/-- A character at which no bracketed name starts is literal text. -/
theorem segmentsOf_char (construct : Construct) {c : Char} {rest : List Char}
    (text : bracketedName? (c :: rest) = none) :
    segmentsOf construct (c :: rest) = (do
      let segments ← segmentsOf construct rest
      return consLiteral c segments) := by
  rw [segmentsOf]
  -- Without a bracketed name in front the other case of the reader cannot come up.
  split
  · rename_i found
    rw [text] at found
    cases found
  · rfl

/-- A bracketed name is read as a slot for a placeholder of this name that is offered. -/
theorem segmentsOf_bracket_eq_ok_iff {construct : Construct} {name after : List Char}
    {segments : List Segment} (valid : IsBracketName name) :
    segmentsOf construct ('<' :: (name ++ '>' :: after)) = .ok segments ↔
      ∃ placeholder others,
        (construct.accepts placeholder = true ∧ placeholder.name.toList = name) ∧
          segmentsOf construct after = .ok others ∧ segments = .slot placeholder :: others := by
  rw [segmentsOf_bracket construct valid]
  simp only [← placeholderOf_eq_ok_iff]
  -- Both readings have to succeed, and each of them may fail by itself.
  cases placeholderOf construct name <;> cases segmentsOf construct after <;>
    simp [Bind.bind, Except.bind, Pure.pure, Except.pure, eq_comm]

/-- A character at which no bracketed name starts is read in front of what the rest is read as. -/
theorem segmentsOf_char_eq_ok_iff {construct : Construct} {c : Char} {rest : List Char}
    {segments : List Segment} (text : bracketedName? (c :: rest) = none) :
    segmentsOf construct (c :: rest) = .ok segments ↔
      ∃ others, segmentsOf construct rest = .ok others ∧ segments = consLiteral c others := by
  rw [segmentsOf_char construct text]
  cases segmentsOf construct rest <;>
    simp [Bind.bind, Except.bind, Pure.pure, Except.pure, eq_comm]

/-- Behind a character of text the first name that is not offered is that of the rest. -/
theorem firstUnoffered_char_iff {construct : Construct} {c : Char} {rest name : List Char}
    {position : Nat} (text : bracketedName? (c :: rest) = none) :
    FirstUnoffered construct (c :: rest) position name ↔
      ∃ later, position = later + 1 ∧ FirstUnoffered construct rest later name := by
  have front {other : List Char} : ¬ NameAt (c :: rest) 0 other := by
    intro found
    obtain ⟨after, found⟩ := nameAt_zero_iff.mp found
    rw [text] at found
    cases found
  -- Nothing starts at the character, so all positions move on by one.
  constructor
  · rintro ⟨stands, unoffered, first⟩
    cases position with
    | zero => exact absurd stands front
    | succ position =>
      refine ⟨position, rfl, nameAt_cons_succ.mp stands, unoffered, fun later other found bad => ?_⟩
      have behind := first (later + 1) other (nameAt_cons_succ.mpr found) bad
      omega
  · rintro ⟨later, rfl, stands, unoffered, first⟩
    refine ⟨nameAt_cons_succ.mpr stands, unoffered, fun other otherName found bad => ?_⟩
    cases other with
    | zero => exact absurd found front
    | succ other =>
      have behind := first other otherName (nameAt_cons_succ.mp found) bad
      omega

/-- The first name is the first that is not offered, or else that one stands behind it. -/
theorem firstUnoffered_bracket_iff {construct : Construct} {name after other : List Char}
    {position : Nat} (valid : IsBracketName name) :
    FirstUnoffered construct ('<' :: (name ++ '>' :: after)) position other ↔
      (¬ construct.Offers name ∧ position = 0 ∧ other = name) ∨
        (construct.Offers name ∧
          ∃ later, position = name.length + 2 + later ∧
            FirstUnoffered construct after later other) := by
  -- The name in front is at position zero, and all others come behind it.
  have start : NameAt ('<' :: (name ++ '>' :: after)) 0 name :=
    (nameAt_bracket_iff valid).mpr (.inl ⟨rfl, rfl⟩)
  constructor
  · rintro ⟨stands, unoffered, first⟩
    rcases (nameAt_bracket_iff valid).mp stands with ⟨rfl, rfl⟩ | ⟨later, rfl, behind⟩
    · exact .inl ⟨unoffered, rfl, rfl⟩
    · -- A name further on is the first bad one only when the one in front is good.
      have offered : construct.Offers name := by
        by_contra bad
        have before := first 0 name start bad
        omega
      refine .inr ⟨offered, later, rfl, behind, unoffered, fun further found foundAt bad => ?_⟩
      have whole := (nameAt_bracket_iff valid).mpr (.inr ⟨further, rfl, foundAt⟩)
      have order := first _ found whole bad
      omega
  · rintro (⟨unoffered, rfl, rfl⟩ | ⟨offered, later, rfl, behind, unoffered, first⟩)
    · -- Nothing comes before the start.
      exact ⟨start, unoffered, fun _ _ _ _ => Nat.zero_le _⟩
    · refine ⟨(nameAt_bracket_iff valid).mpr (.inr ⟨later, rfl, behind⟩), unoffered,
        fun further found foundAt bad => ?_⟩
      rcases (nameAt_bracket_iff valid).mp foundAt with ⟨rfl, rfl⟩ | ⟨later', rfl, deeper⟩
      · exact absurd offered bad
      · have order := first later' found deeper bad
        omega

/-- What is done with the parts that were read does not make the reading fail. -/
private theorem map_eq_error_iff {result : Except TemplateError (List Segment)}
    {error : TemplateError} (extend : List Segment → List Segment) :
    (do let segments ← result; return extend segments) = .error error ↔ result = .error error := by
  cases result <;> simp [Bind.bind, Except.bind, Pure.pure, Except.pure]

/-- Reading fails exactly at the first name that is not offered, and the failure names it. -/
theorem segmentsOf_eq_error_iff {construct : Construct} {text : List Char}
    {error : TemplateError} :
    segmentsOf construct text = .error error ↔
      ∃ position name, FirstUnoffered construct text position name ∧
        error = .unknownPlaceholder construct.key (String.ofList name) := by
  -- The text is read from its front, and each step leaves the later positions in order.
  induction text using bracket_induction generalizing error with
  | nil =>
    rw [segmentsOf_nil]
    constructor
    · intro failed
      cases failed
    · rintro ⟨position, name, found, -⟩
      exact absurd found.stands.lt_length (Nat.not_lt_zero _)
  | bracket name after valid ih =>
    rw [segmentsOf_bracket construct valid]
    simp only [firstUnoffered_bracket_iff valid]
    -- A name that is not offered is the first fault; behind an offered one the rest decides.
    cases looked : placeholderOf construct name with
    | error other =>
      obtain ⟨unoffered, rfl⟩ := placeholderOf_eq_error_iff.mp looked
      simp only [Bind.bind, Except.bind, Except.error.injEq]
      constructor
      · rintro rfl
        exact ⟨0, name, .inl ⟨unoffered, rfl, rfl⟩, rfl⟩
      · rintro ⟨position, other, ⟨-, -, rfl⟩ | ⟨offered, -⟩, rfl⟩
        · rfl
        · exact absurd offered unoffered
    | ok placeholder =>
      have offered : construct.Offers name := ⟨placeholder, placeholderOf_eq_ok_iff.mp looked⟩
      refine (map_eq_error_iff _).trans (ih.trans ?_)
      constructor
      · rintro ⟨later, other, found, rfl⟩
        exact ⟨_, other, .inr ⟨offered, later, rfl, found⟩, rfl⟩
      · rintro ⟨position, other, ⟨unoffered, -⟩ | ⟨-, later, -, found⟩, rfl⟩
        · exact absurd offered unoffered
        · exact ⟨later, other, found, rfl⟩
  | char c rest text ih =>
    -- A character of text is never at fault, and only moves the positions on.
    rw [segmentsOf_char construct text]
    simp only [firstUnoffered_char_iff text]
    refine (map_eq_error_iff _).trans (ih.trans ?_)
    constructor
    · rintro ⟨later, name, found, rfl⟩
      exact ⟨later + 1, name, ⟨later, rfl, found⟩, rfl⟩
    · rintro ⟨position, name, ⟨later, -, found⟩, rfl⟩
      exact ⟨later, name, found, rfl⟩

/-- When a text has a name that is not offered, one of them is the first. -/
theorem exists_firstUnoffered {construct : Construct} {text name : List Char} {position : Nat}
    (stands : NameAt text position name) (unoffered : ¬ construct.Offers name) :
    ∃ first other, FirstUnoffered construct text first other := by
  classical
  have present : ∃ first other, NameAt text first other ∧ ¬ construct.Offers other :=
    ⟨position, name, stands, unoffered⟩
  -- The least position with a name that is not offered is the first one.
  obtain ⟨other, found, bad⟩ := Nat.find_spec present
  exact ⟨Nat.find present, other, found, bad, fun later again foundAt badAgain =>
    Nat.find_min' present ⟨again, foundAt, badAgain⟩⟩

/-- A text is accepted exactly when each bracketed name in it is offered. -/
theorem segmentsOf_accepts_iff {construct : Construct} {text : List Char} :
    (∃ segments, segmentsOf construct text = .ok segments) ↔
      ∀ position name, NameAt text position name → construct.Offers name := by
  -- A text is accepted when it is not refused, and it is refused for a first bad name.
  constructor
  · rintro ⟨segments, read⟩ position name stands
    by_contra unoffered
    obtain ⟨first, other, found⟩ := exists_firstUnoffered stands unoffered
    rw [segmentsOf_eq_error_iff.mpr ⟨first, other, found, rfl⟩] at read
    cases read
  · intro offered
    cases read : segmentsOf construct text with
    | ok segments => exact ⟨segments, rfl⟩
    | error error =>
      obtain ⟨position, name, found, -⟩ := segmentsOf_eq_error_iff.mp read
      exact absurd (offered position name found.stands) found.unoffered

end Manuscript
