import Manuscript.Proofs.Template.Marker

/-!
Where the body of a document goes: in the place of the first marker of its template, with all else as
it stands. The marker cannot overlap itself, so that the texts in front of it and behind it are read
back from the document that they make up.
-/

namespace Manuscript

/-- A needle stands in a text at a position, and at none in front of it. -/
structure FirstAt (needle text : List Char) (position : Nat) : Prop where
  /-- The needle stands there. -/
  stands : needle <+: text.drop position
  /-- It stands nowhere in front. -/
  first : ∀ other, needle <+: text.drop other → position ≤ other

/-- The parts that a text is cut into have the first place of the needle between them. -/
theorem firstAt_of_cutAt? {needle text before after : List Char}
    (cut : cutAt? needle text = some (before, after)) : FirstAt needle text before.length := by
  constructor
  · -- The needle stands where the text was cut.
    rw [eq_of_cutAt? cut, List.append_assoc, List.drop_left]
    exact List.prefix_append ..
  -- Characters are passed over as long as the needle is not in front.
  induction text generalizing before with
  | nil =>
    intro other _
    simp only [cutAt?] at cut
    split at cut <;> simp_all
  | cons c rest ih =>
    intro other stands
    simp only [cutAt?] at cut
    split at cut
    · simp_all
    · rename_i absent
      simp only [Option.map_eq_some_iff, Prod.mk.injEq, Prod.exists] at cut
      obtain ⟨front, back, inner, rfl, rfl⟩ := cut
      -- It cannot stand at the character that was passed over.
      cases other with
      | zero =>
        obtain ⟨behind, here⟩ := stands
        have found : afterStart? needle (c :: rest) = some behind :=
          List.isPrefixOf?_eq_some_iff_append_eq.mpr here
        rw [absent] at found
        cases found
      | succ other => exact Nat.succ_le_succ (ih inner other stands)

section Overlap

variable {mark c : Char} {more rest : List Char} (once : mark ∉ more)

include once

/--
A needle whose first character does not come again in it cannot start in a text where it does not
stand, even if it follows this text.
-/
theorem afterStart?_overlap (absent : ¬ mark :: more <:+: c :: rest) (tail : List Char) :
    afterStart? (mark :: more) (c :: rest ++ (mark :: more ++ tail)) = none := by
  cases found : afterStart? (mark :: more) (c :: rest ++ (mark :: more ++ tail)) with
  | none => rfl
  | some behind =>
    exfalso
    -- The needle would end behind the text or inside of it.
    rcases List.append_eq_append_iff.mp (eq_of_afterStart? found) with
      ⟨overlap, needle, again⟩ | ⟨left, front, -⟩
    · -- What the needle has behind the text starts like the needle itself.
      cases overlap with
      | nil => exact absent ⟨[], [], by simpa using needle⟩
      | cons d overlap =>
        obtain ⟨rfl, -⟩ := List.cons.inj again
        obtain ⟨-, inside⟩ := List.cons.inj needle
        exact once (inside ▸ List.mem_append_right rest List.mem_cons_self)
    · -- Without a part behind the text, the needle stands in the text.
      exact absent ⟨[], left, front.symm⟩

/-- Put behind a text in which it does not stand, such a needle is found in its place. -/
theorem cutAt?_append {head : List Char} (absent : ¬ mark :: more <:+: head) (tail : List Char) :
    cutAt? (mark :: more) (head ++ (mark :: more ++ tail)) = some (head, tail) := by
  induction head with
  | nil =>
    have found : afterStart? (mark :: more) (mark :: (more ++ tail)) = some tail :=
      List.isPrefixOf?_eq_some_iff_append_eq.mpr rfl
    rw [List.nil_append, List.cons_append, cutAt?, found]
  | cons c rest ih =>
    -- The needle is not found here, and it does not stand in the rest of the text either.
    have later := ih fun within => absent (within.trans (List.suffix_cons c rest).isInfix)
    rw [List.cons_append, cutAt?, ← List.cons_append, afterStart?_overlap once absent, later]
    rfl

end Overlap

namespace DocumentTemplate

variable {source : String} {document : DocumentTemplate}

/-- A document is read as the parts that its text is cut into. -/
theorem parse_eq_ok_iff :
    parse source = .ok document ↔
      cutAt? contentMarker.toList source.toList =
        some (document.head.toList, document.tail.toList) := by
  obtain ⟨head, tail⟩ := document
  unfold parse
  -- A document is the two parts of its cut.
  cases cutAt? contentMarker.toList source.toList with
  | none => simp
  | some parts => simp [Prod.ext_iff, ← String.toList_inj]

/-- The text of a document is made of its parts with the marker between them. -/
theorem eq_of_parse (read : parse source = .ok document) :
    source = document.head ++ contentMarker ++ document.tail := by
  rw [← String.toList_inj, eq_of_cutAt? (parse_eq_ok_iff.mp read), String.toList_append,
    String.toList_append]

/-- A document is refused when it has no marker, and for nothing else. -/
theorem parse_eq_error_iff {error : TemplateError} :
    parse source = .error error ↔
      ¬ contentMarker.toList <:+: source.toList ∧ error = .missingMarker contentMarker := by
  unfold parse
  -- Cutting succeeds exactly where the marker stands.
  cases cut : cutAt? contentMarker.toList source.toList with
  | some parts =>
    have within : contentMarker.toList <:+: source.toList :=
      ⟨parts.1, parts.2, (eq_of_cutAt? cut).symm⟩
    simp [within]
  | none =>
    -- Wherever the marker stood, the cut would have found it.
    have absent : ¬ contentMarker.toList <:+: source.toList := by
      intro within
      obtain ⟨parts, found⟩ := exists_cutAt?_of_infix within
      rw [cut] at found
      cases found
    simp [absent, eq_comm]

/-- The parts of a document are read from the text that they make up. -/
theorem parse_append {head : String} (absent : ¬ contentMarker.toList <:+: head.toList)
    (tail : String) : parse (head ++ contentMarker ++ tail) = .ok ⟨head, tail⟩ := by
  rw [parse_eq_ok_iff, String.toList_append, String.toList_append, List.append_assoc]
  -- The bracket that opens the marker comes only once in it.
  exact cutAt?_append (show '<' ∉ contentMarker.toList.tail by decide) absent tail.toList

/-- With a body a document is its text with the first marker replaced by the body. -/
theorem toList_wrap (read : parse source = .ok document) (body : String) :
    (document.wrap body).toList =
      source.toList.take document.head.toList.length ++ body.toList ++
        source.toList.drop (document.head.toList.length + contentMarker.toList.length) := by
  rw [eq_of_parse read]
  simp [wrap]

/--
A document is accepted when it has a marker, and its body takes the place of the first one and
changes nothing else. A text without a marker, a marker and any text are read as these two texts, so
that no two documents are read as the same.
-/
theorem parse_wrap_first (source : String) :
    ((∃ document, parse source = .ok document) ↔ contentMarker.toList <:+: source.toList) ∧
    (∀ error, parse source = .error error ↔
      ¬ contentMarker.toList <:+: source.toList ∧ error = .missingMarker contentMarker) ∧
    (∀ document, parse source = .ok document →
      ∃ position, FirstAt contentMarker.toList source.toList position ∧
        ∀ body, (document.wrap body).toList =
          source.toList.take position ++ body.toList ++
            source.toList.drop (position + contentMarker.toList.length)) ∧
    (∀ head tail : String, ¬ contentMarker.toList <:+: head.toList →
      source = head ++ contentMarker ++ tail → parse source = .ok ⟨head, tail⟩) ∧
    (∀ other document, parse source = .ok document → parse other = .ok document →
      other = source) := by
  refine ⟨?_, fun error => parse_eq_error_iff, fun document read => ?_, ?_, ?_⟩
  -- A text is cut just when the marker occurs in it.
  · constructor
    · rintro ⟨document, read⟩
      exact ⟨_, _, (eq_of_cutAt? (parse_eq_ok_iff.mp read)).symm⟩
    · intro within
      obtain ⟨⟨head, tail⟩, cut⟩ := exists_cutAt?_of_infix within
      exact ⟨⟨.ofList head, .ofList tail⟩, parse_eq_ok_iff.mpr (by simpa using cut)⟩
  · -- The cut is at the first marker, and the body takes its place.
    exact ⟨_, firstAt_of_cutAt? (parse_eq_ok_iff.mp read), toList_wrap read⟩
  · rintro head tail absent rfl
    exact parse_append absent tail
  · -- The parts and the marker make up the text, so that no other text has them.
    intro other document read again
    rw [eq_of_parse read, eq_of_parse again]

/-- The first part of a document may end with the start of a marker. -/
theorem parse_wrap_first_partialMarker :
    let source := "<!-- INSERT_<!-- " ++ contentMarker ++ "-->"
    parse source = .ok ⟨"<!-- INSERT_<!-- ", "-->"⟩ ∧
      (DocumentTemplate.mk "<!-- INSERT_<!-- " "-->").wrap contentMarker = source := by
  intro source
  have absent : ¬ contentMarker.toList <:+: "<!-- INSERT_<!-- ".toList := by decide
  exact ⟨(parse_wrap_first source).2.2.2.1 _ _ absent rfl, rfl⟩

end DocumentTemplate

end Manuscript
