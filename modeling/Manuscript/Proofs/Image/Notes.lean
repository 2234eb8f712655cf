import Manuscript.Render.Constructs

/-!
The note above an image whose format cannot be included as it stands. It is meant to be a comment
line, and is one unless a line feed stands in the extension of the image: then what is behind that
line feed is no comment any more.
-/

namespace Manuscript

/-- A text is a comment line of LaTeX: it begins with a percent sign, and the one line feed in it
ends it. -/
def IsCommentLine (text : List Char) : Prop :=
  text.head? = some '%' ∧ text.getLast? = some '\n' ∧ text.count '\n' = 1

instance (text : List Char) : Decidable (IsCommentLine text) :=
  inferInstanceAs (Decidable (_ ∧ _ ∧ _))

/-- A comment line is what stands between a percent sign and a line feed. -/
theorem isCommentLine_iff {inside : List Char} :
    IsCommentLine ('%' :: (inside ++ ['\n'])) ↔ '\n' ∉ inside := by
  have last : ('%' :: (inside ++ ['\n'])).getLast? = some '\n' := by
    rw [← List.cons_append, List.getLast?_concat]
  have count : ('%' :: (inside ++ ['\n'])).count '\n' = inside.count '\n' + 1 := by
    rw [List.count_cons_of_ne (by decide), List.count_append, List.count_singleton_self]
  -- The line feed at the end is the only one just when none stands inside.
  simp only [IsCommentLine, List.head?_cons, last, count, true_and, Nat.add_eq_right,
    List.count_eq_zero]

/-- A format that is known is told by an extension without a line feed, and any other by itself. -/
theorem ofPath_known_or_unknown (path : Path) :
    ('\n' ∉ lowerExtension path ∧
        (ImageFormat.ofPath path = .native ∨ ∃ format, ImageFormat.ofPath path = .raster format)) ∨
      ImageFormat.ofPath path = .unknown (lowerExtension path) := by
  unfold ImageFormat.ofPath
  dsimp only
  generalize lowerExtension path = extension
  -- Every extension that is compared with is written without a line feed.
  have anyOf {names : List String} (plain : ∀ name ∈ names, '\n' ∉ name.toList)
      (among : (names.any (·.toList = extension)) = true) : '\n' ∉ extension := by
    obtain ⟨name, member, same⟩ := List.any_eq_true.mp among
    exact of_decide_eq_true same ▸ plain name member
  split
  · rename_i among
    exact .inl ⟨anyOf (by decide) among, .inl rfl⟩
  split
  · rename_i same
    exact .inl ⟨same ▸ by decide, .inr ⟨_, rfl⟩⟩
  split
  · rename_i among
    exact .inl ⟨anyOf (by decide) among, .inr ⟨_, rfl⟩⟩
  split
  · rename_i same
    exact .inl ⟨same ▸ by decide, .inr ⟨_, rfl⟩⟩
  split
  · rename_i same
    exact .inl ⟨same ▸ by decide, .inr ⟨_, rfl⟩⟩
  · -- What is compared with none of them is told by itself.
    exact .inr rfl

/-- What is said of a known format has no line feed in it. -/
theorem lineFeed_notMem_note {format : ImageFormat} {note : String}
    (known : format = .native ∨ ∃ raster, format = .raster raster)
    (said : format.note? = some note) : '\n' ∉ note.toList := by
  rcases known with rfl | ⟨raster, rfl⟩
  · cases said
  · obtain rfl := Option.some.inj said
    -- The note on a known format is a fixed text.
    cases raster <;> decide

/-- The note on an unknown format has the line feeds of its extension and no others. -/
theorem exists_note_unknown (extension : List Char) :
    ∃ note, (ImageFormat.unknown extension).note? = some note ∧
      ('\n' ∈ note.toList ↔ '\n' ∈ extension) ∧
      (extension ≠ [] → note.toList =
        "unknown image format .".toList ++ extension ++ ", use PNG or JPEG".toList) := by
  cases extension with
  -- Without an extension the note is a fixed text.
  | nil => exact ⟨_, rfl, by decide, absurd rfl⟩
  -- The texts around the extension have none, so that all line feeds are its own.
  | cons c rest =>
    have spelled : ("unknown image format ." ++ String.ofList (c :: rest) ++
        ", use PNG or JPEG").toList =
        "unknown image format .".toList ++ (c :: rest) ++ ", use PNG or JPEG".toList := by
      simp only [String.toList_append, String.toList_ofList]
    refine ⟨_, rfl, ?_, fun _ => spelled⟩
    have front : '\n' ∉ "unknown image format .".toList := by decide
    have back : '\n' ∉ ", use PNG or JPEG".toList := by decide
    rw [spelled, List.mem_append, List.mem_append]
    simp only [front, back, false_or, or_false]

/-- A note is written between the percent sign of a comment and a line feed. -/
theorem formatNote_of_note {url note : String}
    (said : (ImageFormat.ofPath (.ofString url)).note? = some note) :
    (Renderer.formatNote url).toList =
      '%' :: (" Image format note: ".toList ++ note.toList ++ ['\n']) := by
  -- The note is one line, opened by a percent sign.
  rw [Renderer.formatNote, said]
  simp only [String.toList_append]
  rfl

/-- Such a note is a comment line when there is no line feed in it. -/
theorem isCommentLine_formatNote_iff {url note : String}
    (said : (ImageFormat.ofPath (.ofString url)).note? = some note) :
    IsCommentLine (Renderer.formatNote url).toList ↔ '\n' ∉ note.toList := by
  -- Only the note itself can hold a line feed before the end.
  have front : '\n' ∉ " Image format note: ".toList := by decide
  rw [formatNote_of_note said, isCommentLine_iff, List.mem_append]
  simp only [front, false_or]

/-- There is a note on every image but those that are included as they stand. -/
theorem formatNote_eq_empty_iff (url : String) :
    Renderer.formatNote url = "" ↔ ImageFormat.ofPath (.ofString url) = .native := by
  -- A note is never written as nothing, since its mark stands in front.
  have noted {note : String} (said : (ImageFormat.ofPath (.ofString url)).note? = some note) :
      Renderer.formatNote url ≠ "" := by
    intro none
    have spelled := formatNote_of_note said
    rw [none] at spelled
    cases spelled
  cases format : ImageFormat.ofPath (.ofString url) with
  -- Only a format that is included directly has no note.
  | native => simp [Renderer.formatNote, format, ImageFormat.note?]
  | raster kind =>
    have said : (ImageFormat.ofPath (.ofString url)).note? =
        some (kind.name ++ " images may need to be converted to PNG") := by
      rw [format]
      rfl
    simpa using noted said
  | unknown extension =>
    obtain ⟨note, said, -⟩ := exists_note_unknown extension
    simpa using noted (format ▸ said)

/-- The note on an image is nothing or a comment line exactly when no line feed stands in the
extension. -/
theorem commented_iff (url : String) :
    (Renderer.formatNote url = "" ∨ IsCommentLine (Renderer.formatNote url).toList) ↔
      '\n' ∉ lowerExtension (.ofString url) := by
  -- A known format is told by a plain extension, and the note on any other one repeats it.
  rcases ofPath_known_or_unknown (.ofString url) with ⟨plain, known⟩ | unknown
  · refine iff_of_true ?_ plain
    cases said : (ImageFormat.ofPath (.ofString url)).note? with
    | none =>
      left
      rw [Renderer.formatNote, said]
    | some note =>
      exact .inr ((isCommentLine_formatNote_iff said).mpr (lineFeed_notMem_note known said))
  · obtain ⟨note, said, breaks, -⟩ := exists_note_unknown (lowerExtension (.ofString url))
    rw [← unknown] at said
    -- An unknown format has a note, whatever its extension is.
    have noted : Renderer.formatNote url ≠ "" := by
      rw [Ne, formatNote_eq_empty_iff, unknown]
      exact nofun
    rw [isCommentLine_formatNote_iff said, breaks]
    exact or_iff_right noted

/-- Behind the first line feed in the extension of an image the note on it goes on, in a line that
is no comment. -/
theorem formatNote_of_lineFeed {url : String} {before after : List Char}
    (breaks : lowerExtension (.ofString url) = before ++ '\n' :: after) (whole : '\n' ∉ before) :
    ∃ line, IsCommentLine line ∧
      (Renderer.formatNote url).toList = line ++ (after ++ ", use PNG or JPEG\n".toList) := by
  rcases ofPath_known_or_unknown (.ofString url) with ⟨plain, -⟩ | unknown
  · -- A known extension has no line feed.
    rw [breaks] at plain
    exact absurd (List.mem_append_right before List.mem_cons_self) plain
  · obtain ⟨note, said, -, spelled⟩ := exists_note_unknown (lowerExtension (.ofString url))
    rw [← unknown] at said
    rw [breaks] at spelled
    -- Up to the line feed the note is a comment, as its own words have none.
    have front : '\n' ∉ " Image format note: unknown image format .".toList := by decide
    refine ⟨'%' :: ((" Image format note: unknown image format .".toList ++ before) ++ ['\n']),
      isCommentLine_iff.mpr ?_, ?_⟩
    · rw [List.mem_append]
      exact not_or.mpr ⟨front, whole⟩
    · rw [formatNote_of_note said, spelled (List.append_ne_nil_of_right_ne_nil _ (List.cons_ne_nil _ _))]
      simp

/--
An image is written with its template, and above it comes nothing, when it is included as it stands,
or the note on its format. The note is one comment line exactly when there is no line feed in the
extension of its path; otherwise what stands in the extension behind the first one is no comment.
-/
theorem image_noted (r : Renderer) (alt url : String) (title? : Option String) :
    let resolved := resolveImagePath r.options.imageRules url
    let extension := lowerExtension (.ofString resolved)
    ∃ note, r.image alt url title? =
        note ++ r.fill .image
          [(.url, resolved), (.alt, alt), (.label, figureLabel alt), (.title, title?.getD "")] ∧
      (note = "" ↔ ImageFormat.ofPath (.ofString resolved) = .native) ∧
      (note = "" ∨ IsCommentLine note.toList ↔ '\n' ∉ extension) ∧
      ∀ before after, extension = before ++ '\n' :: after → '\n' ∉ before →
        ∃ line, IsCommentLine line ∧
          note.toList = line ++ (after ++ ", use PNG or JPEG\n".toList) := by
  intro resolved extension
  exact ⟨_, rfl, formatNote_eq_empty_iff resolved, commented_iff resolved,
    fun before after => formatNote_of_lineFeed⟩

/-- With a line feed in the extension of an image, what stands above it is no comment line. -/
theorem not_image_commented :
    let r := Renderer.ofTemplates .builtin {}
    ¬ ∃ note, r.image "" "a.b\nc" none =
        note ++ r.fill .image [(.url, "a.b\nc"), (.alt, ""), (.label, ""), (.title, "")] ∧
      (note = "" ∨ IsCommentLine note.toList) := by
  rintro r ⟨note, written, commented⟩
  have resolved : resolveImagePath r.options.imageRules "a.b\nc" = "a.b\nc" := by decide
  have label : figureLabel "" = "" := by decide
  -- The template is the same on both sides, so that it is the note that stands in front of it.
  obtain rfl : note = Renderer.formatNote "a.b\nc" := by
    rw [Renderer.image, resolved, label] at written
    exact ((String.append_left_inj _).mp written).symm
  have extension : lowerExtension (.ofString "a.b\nc") = "b\nc".toList := by decide
  rw [commented_iff, extension] at commented
  exact commented (by decide)

end Manuscript
