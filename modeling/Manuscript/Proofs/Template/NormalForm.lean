import Manuscript.Proofs.Template.Builtin
import Manuscript.Proofs.Template.Substitution

/-!
The normal form of a template: what its text is read as, and what reads back as it stands. Accepted
texts and normal forms go with each other one to one, so that two templates are the same when their
texts are.
-/

namespace Manuscript

/--
A part that a template in normal form may have: literal text that is not empty and holds no name in
brackets, or a slot on offer.
-/
def Segment.Fits (construct : Construct) : Segment → Prop
  | .literal text => text ≠ [] ∧ ∀ position name, ¬ NameAt text position name
  | .slot placeholder => construct.accepts placeholder = true

/-- The parts of a template in normal form. -/
structure IsNormal (construct : Construct) (segments : List Segment) : Prop where
  /-- Each part may stand in a template of the construct. -/
  fits : ∀ segment ∈ segments, segment.Fits construct
  /-- No literal text stands next to another. -/
  apart : ∀ text other, ¬ [.literal text, .literal other] <:+: segments

/-- The text that a part of a template is written as in its source. -/
def Segment.source : Segment → List Char
  | .literal text => text
  | .slot placeholder => '<' :: (placeholder.name.toList ++ ['>'])

/-- The text that the parts of a template are written as in its source. -/
def sourceOf (segments : List Segment) : List Char := segments.flatMap Segment.source

variable {construct : Construct} {segments : List Segment} {text : List Char} {c : Char}

/-- Nothing is in normal form. -/
theorem isNormal_nil : IsNormal construct [] := ⟨by simp, by simp⟩

/--
A part stands in front of parts in normal form when it fits, and when it is not literal text in front
of further literal text.
-/
theorem isNormal_cons_iff {segment : Segment} :
    IsNormal construct (segment :: segments) ↔
      segment.Fits construct ∧
        (∀ text other rest, segment = .literal text → segments ≠ .literal other :: rest) ∧
          IsNormal construct segments := by
  -- Two literal texts beside each other stand in front, or they stand further behind.
  constructor
  · rintro ⟨fits, apart⟩
    obtain ⟨here, later⟩ := List.forall_mem_cons.mp fits
    -- What is apart everywhere is apart at the front and behind it.
    refine ⟨here, ?_, later, fun text other within => ?_⟩
    · rintro text other rest rfl rfl
      exact apart text other ⟨[], rest, rfl⟩
    · exact apart text other (within.trans (List.suffix_cons ..).isInfix)
  · rintro ⟨here, last, later, apart⟩
    refine ⟨List.forall_mem_cons.mpr ⟨here, later⟩, fun text other within => ?_⟩
    rcases List.infix_cons_iff.mp within with ⟨rest, front⟩ | behind
    · obtain ⟨same, others⟩ := List.cons.inj front
      exact last text other rest same.symm others.symm
    · exact apart text other behind

section Source

/-- A slot is written as its name in brackets. -/
theorem sourceOf_slot (placeholder : Placeholder) (segments : List Segment) :
    sourceOf (.slot placeholder :: segments) =
      '<' :: (placeholder.name.toList ++ '>' :: sourceOf segments) := by
  simp [sourceOf, Segment.source]

/-- Literal text is written as it stands. -/
theorem sourceOf_literal (text : List Char) (segments : List Segment) :
    sourceOf (.literal text :: segments) = text ++ sourceOf segments := by
  simp [sourceOf, Segment.source]

/-- A character in front of the parts is written in front of their text. -/
theorem sourceOf_consLiteral (c : Char) (segments : List Segment) :
    sourceOf (consLiteral c segments) = c :: sourceOf segments := by
  unfold consLiteral
  split <;> simp [sourceOf, Segment.source]

/-- What a text is read as is written as this text. -/
theorem sourceOf_of_segmentsOf (read : segmentsOf construct text = .ok segments) :
    sourceOf segments = text := by
  -- The induction follows the reader: a bracketed name becomes a slot, any other character text.
  induction text using bracket_induction generalizing segments with
  | nil =>
    rw [segmentsOf_nil] at read
    obtain rfl := Except.ok.inj read
    rfl
  | bracket name after valid ih =>
    obtain ⟨placeholder, others, ⟨-, named⟩, behind, rfl⟩ :=
      (segmentsOf_bracket_eq_ok_iff valid).mp read
    rw [sourceOf_slot, named, ih behind]
  | char c rest text ih =>
    obtain ⟨others, behind, rfl⟩ := (segmentsOf_char_eq_ok_iff text).mp read
    rw [sourceOf_consLiteral, ih behind]

end Source

section Reading

/-- A text without names in brackets is without them behind a character that starts none. -/
theorem fits_cons (free : ∀ position name, ¬ NameAt text position name) {back : List Char}
    (starts : bracketedName? (c :: (text ++ back)) = none) :
    (Segment.literal (c :: text)).Fits construct := by
  refine ⟨List.cons_ne_nil c text, fun position name found => ?_⟩
  cases position with
  | zero =>
    -- A name in front of the text would also be in front of the longer one.
    obtain ⟨valid, after, split⟩ := found
    have longer : bracketedName? (c :: (text ++ back)) = some (name, after ++ back) := by
      refine bracketedName?_eq_some_iff.mpr ⟨valid, ?_⟩
      rw [← List.cons_append, show c :: text = _ from split]
      simp
    rw [starts] at longer
    cases longer
  | succ position => exact free position name (nameAt_cons_succ.mp found)

/-- A character that starts no name in brackets stands in front of parts in normal form. -/
theorem IsNormal.consLiteral (normal : IsNormal construct segments)
    (starts : bracketedName? (c :: sourceOf segments) = none) :
    IsNormal construct (consLiteral c segments) := by
  unfold Manuscript.consLiteral
  split
  · -- The character joins the literal text that comes first.
    rename_i text rest
    obtain ⟨⟨-, free⟩, last, later⟩ := isNormal_cons_iff.mp normal
    rw [sourceOf_literal] at starts
    exact isNormal_cons_iff.mpr ⟨fits_cons free starts, fun _ other rest _ =>
      last text other rest rfl, later⟩
  · -- No literal text comes first, so that the character is a part of its own.
    rename_i single
    have free : ∀ position name, ¬ NameAt [] position name :=
      fun position name found => Nat.not_lt_zero position found.lt_length
    exact isNormal_cons_iff.mpr ⟨fits_cons free starts, fun _ other rest _ => single other rest,
      normal⟩

/-- What a text is read as is in normal form. -/
theorem isNormal_of_segmentsOf (read : segmentsOf construct text = .ok segments) :
    IsNormal construct segments := by
  -- The text is a bracketed name or a single character in front of what was read before it.
  induction text using bracket_induction generalizing segments with
  | nil =>
    rw [segmentsOf_nil] at read
    obtain rfl := Except.ok.inj read
    exact isNormal_nil
  | bracket name after valid ih =>
    obtain ⟨placeholder, others, ⟨offered, -⟩, behind, rfl⟩ :=
      (segmentsOf_bracket_eq_ok_iff valid).mp read
    exact isNormal_cons_iff.mpr ⟨offered, nofun, ih behind⟩
  | char c rest starts ih =>
    obtain ⟨others, behind, rfl⟩ := (segmentsOf_char_eq_ok_iff starts).mp read
    rw [← sourceOf_of_segmentsOf behind] at starts
    exact (ih behind).consLiteral starts

end Reading

section Writing

/-- The name of a placeholder may stand in brackets. -/
theorem isBracketName_name (placeholder : Placeholder) :
    IsBracketName placeholder.name.toList := by
  have chars : placeholder.name.toList ≠ [] ∧ placeholder.name.toList.all isNameChar = true := by
    cases placeholder <;> decide
  exact ⟨chars.1, fun c member => isNameChar_iff.mp (List.all_eq_true.mp chars.2 c member)⟩

/--
No name in brackets starts in a text without one, even if what follows opens a bracket: an opening
bracket cannot be a part of the name.
-/
theorem bracketedName?_append_eq_none {rest back : List Char}
    (free : ∀ name, ¬ NameAt (c :: rest) 0 name) (opens : ∀ first ∈ back.head?, first = '<') :
    bracketedName? (c :: rest ++ back) = none := by
  -- A name that is found ends inside the text, or goes on behind it.
  rw [Option.eq_none_iff_forall_ne_some]
  rintro ⟨name, after⟩ found
  obtain ⟨valid, whole⟩ := bracketedName?_eq_some_iff.mp found
  have split : c :: rest ++ back = '<' :: (name ++ ['>']) ++ after := by simpa using whole
  rcases List.append_eq_append_iff.mp split with ⟨overlap, name', follows⟩ | ⟨left, inside, -⟩
  · cases overlap with
    | nil => exact free name ⟨valid, [], by simpa using name'.symm⟩
    | cons first overlap =>
      obtain rfl : first = '<' := opens first (by rw [follows]; rfl)
      -- The bracket that follows would stand behind the first character of the bracketed name.
      have member : '<' ∈ name ++ ['>'] := by
        rw [(List.cons.inj name').2]
        exact List.mem_append_right rest List.mem_cons_self
      rcases List.mem_append.mp member with within | closing
      · exact valid.open_not_mem within
      · exact absurd closing (by decide)
  · exact free name ⟨valid, left, by simpa using inside⟩

/-- Literal text that fits is read as one part when no literal text follows. -/
theorem segmentsOf_literal (fits : (Segment.literal text).Fits construct)
    (last : ∀ other rest, segments ≠ .literal other :: rest)
    (read : segmentsOf construct (sourceOf segments) = .ok segments) :
    segmentsOf construct (text ++ sourceOf segments) = .ok (.literal text :: segments) := by
  obtain ⟨some, free⟩ := fits
  -- What follows the text is nothing or a slot, which opens with a bracket.
  have opens : ∀ first ∈ (sourceOf segments).head?, first = '<' := by
    intro first member
    cases segments with
    | nil => cases member
    | cons segment rest =>
      cases segment with
      | literal other => exact absurd rfl (last other rest)
      | slot placeholder =>
        rw [sourceOf_slot] at member
        exact (Option.some.inj member).symm
  induction text with
  | nil => exact absurd rfl some
  | cons c rest ih =>
    have starts := bracketedName?_append_eq_none (free 0) opens
    refine (segmentsOf_char_eq_ok_iff starts).mpr ?_
    cases rest with
    | nil =>
      -- The last character of the text opens the literal part.
      refine ⟨segments, read, ?_⟩
      unfold consLiteral
      split
      · exact absurd rfl (last _ _)
      · rfl
    | cons d rest =>
      -- The text without its first character fits, too, and the character joins what is read of it.
      have later := ih (List.cons_ne_nil d rest) fun position name found =>
        free (position + 1) name (nameAt_cons_succ.mpr found)
      exact ⟨_, later, rfl⟩

/-- Parts in normal form are read from the text that they are written as. -/
theorem segmentsOf_sourceOf (normal : IsNormal construct segments) :
    segmentsOf construct (sourceOf segments) = .ok segments := by
  -- A slot is read as its name, and literal text up to the next slot or to the end.
  induction segments with
  | nil => exact segmentsOf_nil construct
  | cons segment rest ih =>
    obtain ⟨fits, last, later⟩ := isNormal_cons_iff.mp normal
    cases segment with
    | literal text =>
      rw [sourceOf_literal]
      exact segmentsOf_literal fits (fun other more => last text other more rfl) (ih later)
    | slot placeholder =>
      rw [sourceOf_slot]
      exact (segmentsOf_bracket_eq_ok_iff (isBracketName_name placeholder)).mpr
        ⟨placeholder, rest, ⟨fits, rfl⟩, ih later, rfl⟩

end Writing

namespace Template

/-- The text that a template is written as. -/
def source (template : Template) : String := String.ofList (sourceOf template.segments)

/-- An accepted text is what its template is written as. -/
theorem source_of_parse {source : String} {template : Template}
    (read : parse construct source = .ok template) : template.source = source := by
  rw [Template.source, sourceOf_of_segmentsOf (parse_eq_ok_iff.mp read), String.ofList_toList]

/-- A text that is accepted is what the construct starts with. -/
theorem parse_eq_builtin {construct : Construct} {chars : List Char}
    (text : construct.defaultTemplate = String.ofList chars)
    (accepted : (segmentsOf construct chars).isOk = true) :
    parse construct construct.defaultTemplate = .ok (builtin construct) := by
  rw [builtin_eq_spelled construct text, parse_eq_ok_iff, text, String.toList_ofList, spelled]
  -- The text of a built-in template is one that can be read.
  cases read : segmentsOf construct chars with
  | ok segments => rfl
  | error error =>
    rw [read] at accepted
    cases accepted

/-- The template that a construct starts with is read from its text. -/
theorem parse_defaultTemplate (construct : Construct) :
    parse construct construct.defaultTemplate = .ok (builtin construct) := by
  -- Two of the templates are put together of several texts, which have to be spelled out first.
  cases construct
  case image =>
    exact parse_eq_builtin (append_eq_ofList (append_eq_ofList rfl rfl) rfl) (by decide +kernel)
  case table =>
    exact parse_eq_builtin (append_eq_ofList
      (append_eq_ofList (append_eq_ofList (append_eq_ofList rfl rfl) rfl) rfl) rfl)
      (by decide +kernel)
  all_goals exact parse_eq_builtin rfl (by decide +kernel)

/--
What an accepted text is read as is in normal form and is written as this text, and every normal form
is read from what it is written as. So two templates of a construct are the same when their texts are,
and one is the template that the construct starts with when its text is the text of that one.
-/
theorem parse_normalForm (construct : Construct) :
    (∀ source template, parse construct source = .ok template →
      IsNormal construct template.segments ∧ template.source = source) ∧
    (∀ template, IsNormal construct template.segments →
      parse construct template.source = .ok template) ∧
    (∀ source other template template', parse construct source = .ok template →
      parse construct other = .ok template' → (template = template' ↔ source = other)) ∧
    (∀ source template, parse construct source = .ok template →
      (template = builtin construct ↔ source = construct.defaultTemplate)) := by
  -- What is read determines the text, since it is written as this text again.
  have same {source other : String} {template template' : Template}
      (read : parse construct source = .ok template)
      (again : parse construct other = .ok template') : template = template' ↔ source = other := by
    constructor
    · rintro rfl
      rw [← source_of_parse read, source_of_parse again]
    · rintro rfl
      rw [read] at again
      exact Except.ok.inj again
  refine ⟨fun source template read => ?_, fun template normal => ?_,
    fun _ _ _ _ read again => same read again,
    fun _ _ read => same read (parse_defaultTemplate construct)⟩
  · -- What is read is normal, and is written as it was.
    exact ⟨isNormal_of_segmentsOf (parse_eq_ok_iff.mp read), source_of_parse read⟩
  · rw [parse_eq_ok_iff, Template.source, String.toList_ofList]
    exact segmentsOf_sourceOf normal

/-- Literal text may end with the start of a bracketed name in front of a slot. -/
theorem parse_normalForm_openBracket :
    let template : Template := ⟨[.literal ['<', 'a', '<'], .slot .text]⟩
    IsNormal .emphasis template.segments ∧ parse .emphasis "<a<<text>" = .ok template := by
  intro template
  have free : ∀ position name, ¬ NameAt ['<', 'a', '<'] position name := by
    -- No bracket is closed in this text.
    rintro position name ⟨-, after, split⟩
    have closing : '>' ∈ ['<', 'a', '<'].drop position := by simp [split]
    exact absurd (List.mem_of_mem_drop closing) (by decide)
  have normal : IsNormal .emphasis template.segments := by
    refine isNormal_cons_iff.mpr ⟨⟨by decide, free⟩, nofun, ?_⟩
    have offered : Construct.accepts .emphasis .text = true := by decide
    exact isNormal_cons_iff.mpr ⟨offered, nofun, isNormal_nil⟩
  exact ⟨normal, (parse_normalForm .emphasis).2.1 template normal⟩

end Template

end Manuscript
