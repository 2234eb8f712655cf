import Manuscript.Proofs.Conversion.Collision
import Manuscript.Proofs.Files.Surroundings
import Manuscript.Proofs.Task.Tells

/-!
What a conversion of one file leaves behind. When it ends well the document is there, and at most
folders around it are new. When it fails no file is new, gone or changed, and where the source is at
fault nothing was done at all.
-/

namespace Manuscript

open Manuscript.Files Manuscript.Task

variable {σ : Type} (programs : Programs σ)

/-- The document that a source has on a world: its tokens, rendered with what is there. -/
def IsRendering (options : ConvertOptions) (world : World σ) (input : Path) (document : String) :
    Prop :=
  ∃ tokenizer source tokens, options.tokenizerFor input = .ok tokenizer ∧
    world.files.textAt input = .ok source ∧ tokenizer.tokenize source = .ok tokens ∧
    ((convertTokens tokens options).run programs world).1 = document

/-- An error says that no tokenizer is there, that a source has no tokens, or that it is at fault. -/
def ConvertError.ConcernsSource (input : Path) : ConvertError → Prop
  | .tokenizerNotFound _ | .tokenize _ => True
  | .io path _ => path = input
  | _ => False

/-- What is read is a file that is found. -/
theorem Files.find_of_read {files : Files} {path : Path} {content : Bytes}
    (read : files.read path = .ok content) : files.find path = .ok (.file content) := by
  unfold Files.read at read
  split at read
  -- Only a file can be read.
  case h_1 found => rw [found, Except.ok.inj read]
  case h_2 => cases read
  case h_3 => cases read

variable {programs} {options : ConvertOptions} {world : World σ} {input output : Path}

/-- A document that is made is that of its source on the files before, and not to be put there. -/
theorem rendering_of_documentFor {document : String}
    (made : ((documentFor options input output).run programs world).1 = .ok document) :
    output.same input = false ∧ (∃ content, world.files.read input = .ok content) ∧
      IsRendering programs options world input document := by
  have gives : (documentFor options input output).Gives (· = world.files)
      ((documentFor options input output).run programs world).1 :=
    (documentFor_asks options input output).gives_run world
  rw [made] at gives
  obtain ⟨other, files, content, rfl, read, tokenizer, source, tokens, chosen, decoded, tokenized,
    gives⟩ := documentFor_gives gives
  -- The source is a text, as it was decoded.
  have text : world.files.textAt input = .ok source := by
    simp only [textAt, read, decoded]
  -- Nobody else is at work, so that all that is looked at is as on the files before.
  have rendered : document = ((convertTokens tokens options).run programs world).1 :=
    gives.eq_run (fun _ same => same ▸ rfl) (fun _ _ _ same => same ▸ rfl) world rfl
  exact ⟨other, ⟨content, read⟩, tokenizer, source, tokens, chosen, text, tokenized,
    rendered.symm⟩

variable (programs options world input) in
/-- How the conversion of a file to an output ends, and what files it leaves. -/
inductive Converts (output : Path) : Except ConvertError Path → Files → Prop
  /-- Without a document nothing is done. -/
  | unmade {error : ConvertError} : Converts output (.error error) world.files
  /-- The document is put where room was made for it. -/
  | written {document : String} {between later : Files}
    (rendered : IsRendering programs options world input document)
    (room : MakesRoom output world.files between)
    (put : between.HasPut output (Utf8.encode document) later) : Converts output (.ok output) later
  /-- There is a document, but its path or the folder around it is at fault. -/
  | unwritten {document : String} {between : Files} {place : Path} {reason : String}
    (rendered : IsRendering programs options world input document)
    (room : MakesRoom output world.files between)
    (elsewhere : place = input → between = world.files) :
    Converts output (.error (.io place reason)) between

/-- Where a source that can be read is at fault for the writing, nothing was done. -/
theorem writeFile_keeps_of_source {place : Path} {content document : Bytes}
    (read : world.files.read place = .ok content) (other : output.same place = false)
    (fault : place = output ∨ output.folder? = some place) :
    ((writeFile output document).run programs world).2.files = world.files := by
  rcases fault with rfl | found
  · rw [Path.same, decide_eq_false_iff_not] at other
    exact absurd rfl other
  · -- The source stands instead of the folder around the output.
    rw [writeFile_run, makeRoomFor_run_of_file programs found (find_of_read read)]

variable (programs options world input)

/-- A conversion makes a document, and then it makes room for it and writes it. -/
theorem convertFile_converts (output? : Option Path) :
    Converts programs options world input (outputFor output? input)
      ((convertFile input output? options).run programs world).1
      ((convertFile input output? options).run programs world).2.files := by
  rw [convertFile_eq]
  show Converts _ _ _ _ _ ((Task.bind _ _).run programs world).1
    ((Task.bind _ _).run programs world).2.files
  rw [run_bind]
  have files := documentFor_run_files programs options input (outputFor output? input) world
  have rendering : ∀ document, ((documentFor options input (outputFor output? input)).run programs
      world).1 = .ok document → _ := fun _ => rendering_of_documentFor
  -- Making the document leaves the files alone, so that room is made for it on those from before.
  generalize outputFor output? input = output at *
  generalize (documentFor options input output).run programs world = made at *
  obtain ⟨result, left⟩ := made
  dsimp only at files rendering ⊢
  cases result with
  -- Without a document nothing is written.
  | error error =>
    show Converts _ _ _ _ _ (.error error) left.files
    rw [files]
    exact .unmade
  | ok document =>
    obtain ⟨other, ⟨content, read⟩, rendered⟩ := rendering document rfl
    rw [← files] at read
    obtain ⟨between, room, outcome⟩ :=
      writeFile_outcome programs output (Utf8.encode document) left
    rw [files] at room
    rw [writeDocument]
    rcases outcome with ⟨done, put⟩ | ⟨place, reason, fault, failed, rfl⟩
    · rw [done]
      exact .written rendered room put
    · -- A failed write changes nothing, and its path is not the source.
      rw [failed]
      refine .unwritten rendered room ?_
      rintro rfl
      exact (writeFile_keeps_of_source read other fault).trans files

/--
When a conversion ends well, its path leads to the rendering of the text that the source held before
and at most folders around it are new. When it fails, no file is new, gone or changed, at most such
folders are new, and none is where the source is at fault.
-/
theorem convertFile_leaves (output? : Option Path) :
    (∀ path, ((convertFile input output? options).run programs world).1 = .ok path →
      path = outputFor output? input ∧ ∃ document,
        IsRendering programs options world input document ∧
        world.files.Receives path (Utf8.encode document)
          ((convertFile input output? options).run programs world).2.files) ∧
    (∀ error, ((convertFile input output? options).run programs world).1 = .error error →
      (∀ location content,
        ((convertFile input output? options).run programs world).2.files.entry? location =
            some (.file content) ↔ world.files.entry? location = some (.file content)) ∧
      MakesRoom (outputFor output? input) world.files
        ((convertFile input output? options).run programs world).2.files ∧
      (error.ConcernsSource input ∨ (∃ reason, world.files.textAt input = .error reason) →
        ((convertFile input output? options).run programs world).2.files = world.files)) := by
  -- Each of the three ways to end settles one half and rules out the other.
  have ends := convertFile_converts programs options world input output?
  generalize ((convertFile input output? options).run programs world).1 = result at *
  generalize ((convertFile input output? options).run programs world).2.files = later at *
  cases ends with
  | unmade => exact ⟨nofun, fun _ _ => ⟨fun _ _ => .rfl, .refl _, fun _ => rfl⟩⟩
  -- With a document written there is no error.
  | written rendered room put =>
    refine ⟨?_, nofun⟩
    rintro path ⟨⟩
    exact ⟨rfl, _, rendered, room.receives put⟩
  | unwritten rendered room elsewhere =>
    refine ⟨nofun, ?_⟩
    rintro error ⟨⟩
    refine ⟨room.file, room, ?_⟩
    rintro (concerned | ⟨reason, unread⟩)
    · exact elsewhere concerned
    · -- There is no document of a source that cannot be read.
      obtain ⟨_, _, _, -, text, -⟩ := rendered
      rw [text] at unread
      cases unread

end Manuscript
