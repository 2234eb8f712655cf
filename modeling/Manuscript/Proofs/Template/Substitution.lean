import Manuscript.Proofs.Template.Reading
import Mathlib.Data.List.Range

/-!
Reading a template and filling it: a text is accepted when all its bracketed names are offered, the
first one that is not is what a refusal names, and filling replaces every bracketed name at its
place and nothing else.
-/

namespace Manuscript

/-- The first value listed under a name, empty when there is none. -/
def valueNamed (values : Values) (name : List Char) : List Char :=
  ((values.find? fun entry => entry.1.name.toList = name).map fun entry => entry.2.toList).getD []

/-- What each position of a text turns into when all bracketed names are replaced at once. -/
structure Replaces (values : Values) (text : List Char) (piece : Nat → List Char) : Prop where
  /-- Where a name stands its value is written. -/
  opened : ∀ position name, NameAt text position name → piece position = valueNamed values name
  /-- The rest of a bracketed name disappears. -/
  covered : ∀ position name later, NameAt text position name → position < later →
    later < position + (name.length + 2) → piece later = []
  /-- What belongs to no bracketed name stays. -/
  kept : ∀ position c, text[position]? = some c →
    (∀ start name, NameAt text start name →
      position < start ∨ start + (name.length + 2) ≤ position) → piece position = [c]

/-- The text that comes out when all bracketed names are replaced at once. -/
def Replaced (values : Values) (text out : List Char) : Prop :=
  ∃ piece, Replaces values text piece ∧ out = (List.range text.length).flatMap piece

/-- Replacing all names at once leaves no choice at any position. -/
theorem Replaced.unique {values : Values} {text out other : List Char}
    (replaced : Replaced values text out) (again : Replaced values text other) : out = other := by
  obtain ⟨piece, pieces, rfl⟩ := replaced
  obtain ⟨piece', pieces', rfl⟩ := again
  -- A position opens a name, lies inside of one, or belongs to none.
  refine List.flatMap_congr fun position within => ?_
  have within : position < text.length := List.mem_range.mp within
  by_cases inside : ∃ start name, NameAt text start name ∧ start ≤ position ∧
      position < start + (name.length + 2)
  · obtain ⟨start, name, found, reached, within⟩ := inside
    rcases Nat.eq_or_lt_of_le reached with rfl | behind
    · rw [pieces.opened _ _ found, pieces'.opened _ _ found]
    · rw [pieces.covered _ _ _ found behind within, pieces'.covered _ _ _ found behind within]
  · have outside : ∀ start name, NameAt text start name →
        position < start ∨ start + (name.length + 2) ≤ position := by
      intro start name found
      by_contra apart
      exact inside ⟨start, name, found, by omega, by omega⟩
    have here := List.getElem?_eq_getElem within
    rw [pieces.kept _ _ here outside, pieces'.kept _ _ here outside]

/-- An empty text turns into nothing. -/
theorem replaced_nil (values : Values) : Replaced values [] [] := by
  -- There is no name in an empty text.
  have empty {position : Nat} {name : List Char} : ¬ NameAt [] position name :=
    fun found => Nat.not_lt_zero _ found.lt_length
  exact ⟨fun _ => [],
    ⟨fun _ _ found => absurd found empty, fun _ _ _ found => absurd found empty,
      fun _ _ found => by simp at found⟩, rfl⟩

/-- A character at which no name starts stays in front of what the rest turns into. -/
theorem Replaced.char {values : Values} {c : Char} {rest out : List Char}
    (text : bracketedName? (c :: rest) = none) (replaced : Replaced values rest out) :
    Replaced values (c :: rest) (c :: out) := by
  obtain ⟨piece, pieces, rfl⟩ := replaced
  -- Nothing opens at the character itself.
  have front {name : List Char} : ¬ NameAt (c :: rest) 0 name := by
    intro found
    obtain ⟨after, found⟩ := nameAt_zero_iff.mp found
    rw [text] at found
    cases found
  -- Every position is one further on than in the rest.
  refine ⟨fun position => if position = 0 then [c] else piece (position - 1), ⟨?_, ?_, ?_⟩, ?_⟩
  · rintro (_ | position) name found
    · exact absurd found front
    · simpa using pieces.opened position name (nameAt_cons_succ.mp found)
  · rintro (_ | position) name later found behind inside
    · exact absurd found front
    · obtain ⟨later, rfl⟩ := Nat.exists_eq_succ_of_ne_zero (Nat.ne_of_gt (Nat.zero_lt_of_lt behind))
      simpa using pieces.covered position name later (nameAt_cons_succ.mp found) (by omega)
        (by omega)
  · rintro (_ | position) d here outside
    · simpa using here
    · refine pieces.kept position d (by simpa using here) fun start name found => ?_
      have apart := outside (start + 1) name (nameAt_cons_succ.mpr found)
      omega
  · simp [List.range_succ_eq_map, List.flatMap_map]

/-- The pieces of a text behind a run of positions, of which the first one turns into a value. -/
def pieceBehind (value : List Char) (width : Nat) (piece : Nat → List Char) (position : Nat) :
    List Char :=
  if position = 0 then value else if position < width then [] else piece (position - width)

section PieceBehind

variable {value : List Char} {width : Nat} {piece : Nat → List Char}

@[simp] theorem pieceBehind_zero : pieceBehind value width piece 0 = value := rfl

/-- Nothing is left of the other positions of the run. -/
theorem pieceBehind_inside {position : Nat} (later : position ≠ 0) (inside : position < width) :
    pieceBehind value width piece position = [] := by
  rw [pieceBehind, if_neg later, if_pos inside]

/-- Behind the run the pieces are those of the text there. -/
theorem pieceBehind_add (some : width ≠ 0) (later : Nat) :
    pieceBehind value width piece (width + later) = piece later := by
  rw [pieceBehind, if_neg (by omega), if_neg (by omega), Nat.add_sub_cancel_left]

/-- The run turns into the value in front of all that stands behind it. -/
theorem flatMap_pieceBehind (some : width ≠ 0) (size : Nat) :
    (List.range (width + size)).flatMap (pieceBehind value width piece) =
      value ++ (List.range size).flatMap piece := by
  obtain ⟨width, rfl⟩ := Nat.exists_eq_succ_of_ne_zero some
  -- Only the start of the run gives a piece, which is the value.
  have rest : (List.range width).flatMap (fun position =>
      pieceBehind value (width + 1) piece (position + 1)) = [] :=
    List.flatMap_eq_nil_iff.mpr fun position member =>
      pieceBehind_inside (Nat.succ_ne_zero position)
        (Nat.succ_lt_succ (List.mem_range.mp member))
  have run : (List.range (width + 1)).flatMap (pieceBehind value (width + 1) piece) = value := by
    rw [List.range_succ_eq_map, List.flatMap_cons, List.flatMap_map, rest, List.append_nil,
      pieceBehind_zero]
  rw [List.range_add, List.flatMap_append, List.flatMap_map, run]
  simp only [pieceBehind_add some]

end PieceBehind

/-- The pieces of a text that starts with a bracketed name are its value and those behind it. -/
theorem Replaces.bracket {values : Values} {name after : List Char} {piece : Nat → List Char}
    (valid : IsBracketName name) (pieces : Replaces values after piece) :
    Replaces values ('<' :: (name ++ '>' :: after))
      (pieceBehind (valueNamed values name) (name.length + 2) piece) where
  -- Each demand is met by the first name or, behind it, by the pieces of the rest.
  opened position other found := by
    rcases (nameAt_bracket_iff valid).mp found with ⟨rfl, rfl⟩ | ⟨later, rfl, deeper⟩
    · exact pieceBehind_zero
    · exact (pieceBehind_add (Nat.succ_ne_zero _) later).trans (pieces.opened later other deeper)
  covered position other later found opened inside := by
    rcases (nameAt_bracket_iff valid).mp found with ⟨rfl, rfl⟩ | ⟨start, rfl, deeper⟩
    · exact pieceBehind_inside (by omega) (by omega)
    · obtain ⟨later, rfl⟩ := Nat.exists_eq_add_of_le (show name.length + 2 ≤ later by omega)
      rw [pieceBehind_add (Nat.succ_ne_zero _)]
      exact pieces.covered start other later deeper (by omega) (by omega)
  kept position c here outside := by
    -- What belongs to no name does not belong to the first one, and so stands behind it.
    have past : name.length + 2 ≤ position := by
      have apart := outside 0 name ((nameAt_bracket_iff valid).mpr (.inl ⟨rfl, rfl⟩))
      omega
    obtain ⟨later, rfl⟩ := Nat.exists_eq_add_of_le past
    rw [pieceBehind_add (Nat.succ_ne_zero _)]
    refine pieces.kept later c ?_ fun start other found => ?_
    · rw [show name.length + 2 + later = (name.length + (later + 1)) + 1 by omega,
        List.getElem?_cons_succ, List.getElem?_append_right (by omega)] at here
      simpa using here
    · have apart := outside (name.length + 2 + start) other
        ((nameAt_bracket_iff valid).mpr (.inr ⟨start, rfl, found⟩))
      omega

/-- A bracketed name turns into its value in front of what the rest turns into. -/
theorem Replaced.bracket {values : Values} {name after out : List Char}
    (valid : IsBracketName name) (replaced : Replaced values after out) :
    Replaced values ('<' :: (name ++ '>' :: after)) (valueNamed values name ++ out) := by
  obtain ⟨piece, pieces, rfl⟩ := replaced
  refine ⟨_, pieces.bracket valid, ?_⟩
  -- The brackets and the name take a run of positions, and the rest comes behind it.
  have size : ('<' :: (name ++ '>' :: after)).length = name.length + 2 + after.length := by
    simp only [List.length_cons, List.length_append]
    omega
  rw [size, flatMap_pieceBehind (Nat.succ_ne_zero _)]

/-- The first value under the name of a placeholder is the value of its slot. -/
theorem valueNamed_name (values : Values) (placeholder : Placeholder) :
    valueNamed values placeholder.name.toList = (Template.valueOf values placeholder).toList := by
  -- Two placeholders of one name are the same.
  have same (other : Placeholder) :
      (other.name.toList = placeholder.name.toList) ↔ placeholder = other := by
    rw [String.toList_inj, ← Placeholder.ofName?_eq_some_iff, Placeholder.ofName?_name,
      Option.some.injEq]
  -- Both look-ups stop at the first value that has the name.
  induction values with
  | nil => rfl
  | cons entry rest ih =>
    obtain ⟨other, value⟩ := entry
    by_cases here : placeholder = other
    · simp [valueNamed, Template.valueOf, here]
    · have elsewhere : ¬ other.name.toList = placeholder.name.toList :=
        fun eq => here ((same _).mp eq)
      have differs : (placeholder == other) = false := beq_eq_false_iff_ne.mpr here
      simpa [valueNamed, Template.valueOf, List.lookup_cons, differs, elsewhere] using ih

/-- The text that the parts of a template are filled to. -/
def filledText (values : Values) (segments : List Segment) : List Char :=
  segments.flatMap fun segment => (Template.fillSegment values segment).toList

/-- Filling a template writes its parts one after another. -/
theorem toList_render (template : Template) (values : Values) :
    (template.render values).toList = filledText values template.segments := by
  simp [Template.render, filledText, List.flatMap_map]

/-- A slot is filled with the value under its name. -/
theorem filledText_slot (values : Values) (placeholder : Placeholder) (segments : List Segment) :
    filledText values (.slot placeholder :: segments) =
      valueNamed values placeholder.name.toList ++ filledText values segments := by
  simp [filledText, Template.fillSegment, valueNamed_name]

/-- A character of literal text is written as it stands. -/
theorem filledText_consLiteral (values : Values) (c : Char) (segments : List Segment) :
    filledText values (consLiteral c segments) = c :: filledText values segments := by
  unfold consLiteral
  split <;> simp [filledText, Template.fillSegment]

/-- What is read from a text is filled to that text with all its bracketed names replaced. -/
theorem replaced_of_segmentsOf {construct : Construct} {text : List Char}
    {segments : List Segment} (values : Values)
    (read : segmentsOf construct text = .ok segments) :
    Replaced values text (filledText values segments) := by
  -- The text is read from its front, a name or a character at a time.
  induction text using bracket_induction generalizing segments with
  | nil =>
    rw [segmentsOf_nil] at read
    cases read
    exact replaced_nil values
  | bracket name after valid ih =>
    obtain ⟨placeholder, others, ⟨-, named⟩, behind, rfl⟩ :=
      (segmentsOf_bracket_eq_ok_iff valid).mp read
    rw [filledText_slot, named]
    exact (ih behind).bracket valid
  | char c rest text ih =>
    obtain ⟨others, behind, rfl⟩ := (segmentsOf_char_eq_ok_iff text).mp read
    -- A character of text stands for itself.
    rw [filledText_consLiteral]
    exact (ih behind).char text

namespace Template

/-- A template is read when its parts are. -/
theorem parse_eq_ok_iff {construct : Construct} {source : String} {template : Template} :
    parse construct source = .ok template ↔
      segmentsOf construct source.toList = .ok template.segments := by
  unfold parse
  -- A template is nothing but its segments.
  cases segmentsOf construct source.toList with
  | ok segments =>
    obtain ⟨others⟩ := template
    simp [Except.map]
  | error error => simp [Except.map]

/-- A template is refused for what its parts are refused for. -/
theorem parse_eq_error_iff {construct : Construct} {source : String} {error : TemplateError} :
    parse construct source = .error error ↔ segmentsOf construct source.toList = .error error := by
  unfold parse
  cases segmentsOf construct source.toList <;> simp [Except.map]

/--
A template is accepted when every bracketed name in its text is offered, is refused for the first
one that is not, and is filled by replacing all of them at once and nothing else.
-/
theorem parse_render_iff (construct : Construct) (source : String) :
    ((∃ template, parse construct source = .ok template) ↔
      ∀ position name, NameAt source.toList position name → construct.Offers name) ∧
    (∀ error, parse construct source = .error error ↔
      ∃ position name, FirstUnoffered construct source.toList position name ∧
        error = .unknownPlaceholder construct.key (String.ofList name)) ∧
    (∀ template, parse construct source = .ok template → ∀ values out,
      Replaced values source.toList out ↔ out = (template.render values).toList) := by
  -- That a text is accepted, and how it is filled, is known of the parts that it is read as.
  refine ⟨?_, fun error => parse_eq_error_iff.trans segmentsOf_eq_error_iff, ?_⟩
  · rw [← segmentsOf_accepts_iff]
    constructor
    · rintro ⟨template, read⟩
      exact ⟨template.segments, parse_eq_ok_iff.mp read⟩
    · rintro ⟨segments, read⟩
      exact ⟨⟨segments⟩, parse_eq_ok_iff.mpr read⟩
  · intro template read values out
    -- What the template renders is one replacement, and there is no other.
    have filled := replaced_of_segmentsOf values (parse_eq_ok_iff.mp read)
    rw [toList_render]
    constructor
    · intro replaced
      exact replaced.unique filled
    · rintro rfl
      exact filled

/--
An opening bracket in front of a name and one that is never closed are text, and so is what looks
like a name inside of a value.
-/
theorem parse_render_nested_brackets :
    ∃ template, parse .link "<<url>><a<text" = .ok template ∧
      Replaced [(.url, "<text>"), (.url, "u")] "<<url>><a<text".toList
        "<<text>><a<text".toList := by
  have read : parse .link "<<url>><a<text" = .ok ⟨[.literal ['<'], .slot .url,
      .literal ['>', '<', 'a', '<', 't', 'e', 'x', 't']]⟩ := by
    have url : IsBracketName ['u', 'r', 'l'] := by simp [IsBracketName]
    rw [parse_eq_ok_iff]
    show segmentsOf .link ('<' :: '<' :: (['u', 'r', 'l'] ++
      '>' :: ['>', '<', 'a', '<', 't', 'e', 'x', 't'])) = _
    -- The first bracket is text, the second opens a name, and no later one does.
    rw [segmentsOf_char .link (by decide), segmentsOf_bracket .link url]
    simp (disch := decide) only [segmentsOf_char, segmentsOf_nil]
    rfl
  exact ⟨_, read, ((parse_render_iff .link "<<url>><a<text").2.2 _ read _ _).mpr (by decide)⟩

end Template

end Manuscript
