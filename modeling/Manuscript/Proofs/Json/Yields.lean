import Manuscript.Json.Reader

/-!
What readers can give at all. A property of everything that a reader reads follows from such
properties of the readers that it is made of.
-/

namespace Manuscript.Json

/-- Whatever a reader reads has a property. -/
def Reader.Yields {α : Type} (reader : Reader α) (property : α → Prop) : Prop :=
  ∀ (text : List Char) (read : Read α text), reader text = .ok read → property read.value

namespace Reader

variable {α β σ : Type} {property : α → Prop} {reader : Reader α}

/-- What is nested too deeply is not read. -/
theorem yields_tooDeep (property : α → Prop) : (tooDeep : Reader α).Yields property := nofun

/-- Blanks in front do not matter for what is read. -/
theorem Yields.behindBlanks (yields : reader.Yields property) :
    (Reader.behindBlanks reader).Yields property := by
  intro text read ok
  -- What was read behind the blanks is what is given.
  cases inner : reader (skipBlanks text) with
  | error fault => simp [Reader.behindBlanks, inner] at ok
  | ok found =>
    simp only [Reader.behindBlanks, inner, Except.ok.injEq] at ok
    subst ok
    exact yields _ found inner

/-- A result that is changed has what the change makes of its property. -/
theorem Yields.map {changed : β → Prop} {change : α → β}
    (yields : reader.Yields fun value => changed (change value)) :
    (Reader.map change reader).Yields changed := by
  intro text read ok
  -- Only a result that was read can have been changed.
  cases inner : reader text with
  | error fault => simp [Reader.map, inner] at ok
  | ok found =>
    simp only [Reader.map, inner, Except.ok.injEq] at ok
    subst ok
    exact yields _ found inner

/-- The items of a list have the property of each item. -/
theorem Yields.readItems (yields : reader.Yields property) (first : Bool) :
    Reader.Yields (Json.readItems reader first) fun items => ∀ item ∈ items, property item := by
  intro text
  -- The list is read item by item, and its last reading is the closing bracket.
  fun_induction Json.readItems reader first text with
  | case1 => nofun
  | case2 =>
    intro read ok
    cases ok
    exact nofun
  | case3 => nofun
  | case4 => nofun
  | case5 first text start bound more value rest shorter inner values final last others ih =>
    intro read ok
    cases ok
    exact List.forall_mem_cons.mpr ⟨yields _ _ inner, ih _ others⟩

/-- The items of a list in brackets have the property of each item. -/
theorem Yields.readList (yields : reader.Yields property) :
    (Json.readList reader).Yields fun items => ∀ item ∈ items, property item := by
  intro text read ok
  -- A list begins with its bracket, and its items are read behind that.
  cases text with
  | nil => cases ok
  | cons c rest =>
    cases inner : Json.readItems reader true rest with
    | error fault => simp [Json.readList, inner, Except.map] at ok
    | ok found =>
      simp only [Json.readList, inner, Except.map, Except.ok.injEq] at ok
      subst ok
      exact yields.readItems true _ found inner

variable {member : σ → String → Except Cause (Reader σ)} {keeps : σ → Prop}

/-- What is gathered from members keeps what every member keeps. -/
theorem yields_readMembers
    (each : ∀ state key reader, keeps state → member state key = .ok reader → reader.Yields keeps)
    {state : σ} (start : keeps state) (first : Bool) :
    Reader.Yields (readMembers member state first) keeps := by
  intro text
  -- Reading ends well at the end of the object only, or behind a member and all the others.
  fun_induction readMembers member state first text with
  | case1 => nofun
  | case2 =>
    intro read ok
    cases ok
    exact start
  | case3 => nofun
  | case4 => nofun
  | case5 => nofun
  | case6 => nofun
  | case7 => nofun
  | case8 state first text begin _ _ chars behind _ reader given _ value _ _ next rest _ inner _
      final last _ others ih =>
    intro read ok
    cases ok
    -- The reader of this member keeps what the others start with.
    exact ih (each _ _ _ start given _ _ inner) _ others

/-- What is gathered from an object keeps what every member keeps. -/
theorem yields_readObject
    (each : ∀ state key reader, keeps state → member state key = .ok reader → reader.Yields keeps)
    {state : σ} (start : keeps state) : (readObject member state).Yields keeps := by
  intro text read ok
  -- An object begins with its brace, and its members are read behind that.
  cases text with
  | nil => cases ok
  | cons c rest =>
    cases inner : readMembers member state true rest with
    | error fault => simp [readObject, inner, Except.map] at ok
    | ok found =>
      simp only [readObject, inner, Except.map, Except.ok.injEq] at ok
      subst ok
      exact yields_readMembers each start true _ found inner

end Reader

end Manuscript.Json
