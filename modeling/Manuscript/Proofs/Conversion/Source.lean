import Manuscript.Proofs.Conversion.Collision

/-!
What a conversion does to its own source. The source is kept unless the document is written to where
it stands, which the paths do not show when they are spelled differently.
-/

namespace Manuscript

open Manuscript.Files Manuscript.Task

variable {σ : Type} (programs : Programs σ) (options : ConvertOptions) (input : Path)
  (output? : Option Path) (world : World σ)

/-- A file that is written by itself is the only one, and only when that ends well. -/
theorem writeFile_run_alters (path : Path) (content : Bytes) :
    Alters (fun location =>
        ((writeFile path content).run programs world).1 = .ok path ∧
        (∃ name, path.EndsIn name) ∧ location = world.files.place path)
      world.files ((writeFile path content).run programs world).2.files := by
  -- Nobody else is at work, so that what is done to the files is done by the task.
  have steady : (writeFile path content).Steady programs (Alters fun _ => False)
      (fun result => Alters fun location =>
        result = .ok path ∧ (∃ name, path.EndsIn name) ∧ location = world.files.place path)
      _ world.files := writeFile_alters (fun ends => ⟨rfl, ends, rfl⟩) (.refl world.files)
  refine (steady.run .refl (fun _ => .refl) (fun first => first.trans) ?_ (.refl _)).2
  rintro result files later ⟨current, holds⟩ further
  refine ⟨further.current.trans current, fun spelled ok => ?_⟩
  obtain ⟨same, ends, read⟩ := holds spelled ok
  exact ⟨same, ends, further.read id read⟩

/--
A conversion changes no file, or else it has read its source and writes nothing but its document,
and this only when it ends well.
-/
theorem convertFile_run_files :
    ((convertFile input output? options).run programs world).2.files = world.files ∨
      (∃ content, world.files.read input = .ok content) ∧
        (outputFor output? input).same input = false ∧
        Alters (fun location =>
            ((convertFile input output? options).run programs world).1 =
              .ok (outputFor output? input) ∧
            (∃ name, (outputFor output? input).EndsIn name) ∧
            location = world.files.place (outputFor output? input))
          world.files ((convertFile input output? options).run programs world).2.files := by
  -- The conversion makes the document first and writes it then.
  have split : (convertFile input output? options).run programs world =
      (writeDocument (outputFor output? input)
        ((documentFor options input (outputFor output? input)).run programs world).1).run programs
          ((documentFor options input (outputFor output? input)).run programs world).2 := by
    rw [convertFile_eq]
    exact run_bind programs _ _ world
  -- The first half leaves the files as they are, and the second one sets out from them.
  have same := documentFor_run_files programs options input (outputFor output? input) world
  have gives : (documentFor options input (outputFor output? input)).Gives (· = world.files)
      ((documentFor options input (outputFor output? input)).run programs world).1 :=
    (documentFor_asks options input _).gives_run world
  rw [split]
  generalize (documentFor options input (outputFor output? input)).run programs world = made at *
  obtain ⟨made, left⟩ := made
  dsimp only at same gives ⊢
  cases made with
  -- Without a document nothing is written.
  | error error => exact .inl same
  | ok document =>
    obtain ⟨other, files, content, rfl, read, -⟩ := documentFor_gives gives
    rw [← same]
    exact .inr ⟨⟨content, same ▸ read⟩, other, writeFile_run_alters programs left _ _⟩

/-- A document that is given as it is stands around whatever body comes of the tokens. -/
theorem convertTokens_run_literal {text : String} {document : DocumentTemplate}
    (given : options.template = .literal text)
    (parses : DocumentTemplate.parse text = .ok document) (tokens : List Token) :
    ∃ body, ((convertTokens tokens options).run programs world).1 = document.wrap body := by
  -- A literal that parses is its own document, whatever the files hold.
  have resolves : options.template.resolve = .done document := by
    rw [given]
    show TemplateSource.parsed _ _ = _
    unfold TemplateSource.parsed
    rw [parses]
  unfold convertTokens
  show ∃ body, ((Task.bind _ _).run programs world).1 = _
  rw [run_bind, resolves]
  exact ⟨_, rfl⟩

/--
A conversion leaves its source as it was, unless it ends well and the path of the document leads to
where the source stands: then the two are spelled differently.
-/
theorem convertFile_keeps_source :
    ((convertFile input output? options).run programs world).2.files.read input =
        world.files.read input ∨
      ((convertFile input output? options).run programs world).1 =
          .ok (outputFor output? input) ∧
        world.files.place (outputFor output? input) = world.files.place input ∧
        (outputFor output? input).same input = false := by
  rcases convertFile_run_files programs options input output? world with
    same | ⟨⟨content, read⟩, other, altered⟩
  · exact .inl (by rw [same])
  -- The source is altered only if it stands where the document is written.
  by_cases hit : ((convertFile input output? options).run programs world).1 =
      .ok (outputFor output? input) ∧
        world.files.place input = world.files.place (outputFor output? input)
  · exact .inr ⟨hit.1, hit.2.symm, other⟩
  · exact .inl (by rw [altered.read (fun written => hit ⟨written.1, written.2.2⟩) read, read])

/-- A document that begins with a letter, whatever its body. -/
def lettered : ConvertOptions where
  template := .literal ("x" ++ contentMarker)

/-- An empty source is written over when the path of its document is spelled differently. -/
theorem convertFile_overwrites_source :
    ((convertFile (.ofString "a.md") (some (.ofString "./a.md")) lettered).run noPrograms
        twoSources).2.files.read (.ofString "a.md") ≠
      twoSources.files.read (.ofString "a.md") := by
  obtain ⟨tokens, memory, warnings, done⟩ := convertFile_run noPrograms lettered
    (some (.ofString "./a.md")) twoSources (.ofString "a.md")
    (fun document => twoSources.files.put ["a.md".toList] (.file document)) rfl rfl rfl
    Utf8.decode?_nil (fun _ _ _ => rfl)
  have parses : DocumentTemplate.parse ("x" ++ contentMarker) = .ok ⟨"x", ""⟩ := rfl
  obtain ⟨body, made⟩ := convertTokens_run_literal noPrograms lettered twoSources rfl parses tokens
  -- Both spellings lead to one place, so that the source reads as the document.
  have behind : ∀ content, (twoSources.files.put ["a.md".toList] (.file content)).read
      (.ofString "a.md") = .ok content := fun _ => rfl
  have before : twoSources.files.read (.ofString "a.md") = .ok [] := rfl
  -- The source was empty, and the document that replaces it begins with a letter.
  rw [done, made, behind, before]
  intro same
  have first : Utf8.encode (DocumentTemplate.wrap ⟨"x", ""⟩ body) =
      'x'.toUInt8 :: Utf8.encode (body ++ "") := by
    simp only [Utf8.encode, DocumentTemplate.wrap, String.toList_append, List.append_assoc]
    rfl
  rw [first] at same
  cases same

/-- A document that is written beside its source is never written to the source. -/
theorem convertFile_keeps_source_beside (tree : world.files.IsTree) :
    ((convertFile input none options).run programs world).2.files.read input =
      world.files.read input := by
  rcases convertFile_run_files programs options input none world with
    same | ⟨⟨content, read⟩, other, altered⟩
  · rw [same]
  refine (altered.read ?_ read).trans read.symm
  rintro ⟨-, ⟨made, output⟩, place⟩
  -- The source would be named like its document, and be that.
  obtain ⟨name, ends⟩ := endsIn_of_read tree read
  have last := ends.getLast?_place world.files
  rw [place, output.getLast?_place] at last
  obtain rfl := Option.some.inj last
  obtain ⟨some, dotless, whole⟩ := documentExtension_plain
  -- Then the guard would have kept the conversion from it.
  have self : outputFor none input = input :=
    ends.withExtension_of_endsIn some dotless whole ends output
  rw [self, Path.same, decide_eq_false_iff_not] at other
  exact other rfl

end Manuscript
