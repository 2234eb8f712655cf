import Manuscript.Proofs.Image.Original

/-!
The images of one folder, converted one after another. The PNG of an image is named by the stem of
that alone, so that images whose names differ in the extension only have one PNG. Any other PNG that
is reported is there in the end, as the tool left it that was started for its own image.
-/

namespace Manuscript

open Manuscript.Files Manuscript.Task

variable {σ : Type}

/-- Work on one thing and then on others. -/
theorem Task.run_each_cons {α β : Type} (programs : Programs σ) (work : α → Task β) (item : α)
    (rest : List α) (world : World σ) :
    (Task.each work (item :: rest)).run programs world =
      (((work item).run programs world).1 ::
          ((Task.each work rest).run programs ((work item).run programs world).2).1,
        ((Task.each work rest).run programs ((work item).run programs world).2).2) := by
  simp only [Task.each, run_bind, Task.run]

/-- The first result is that of the first thing, and the others come of the world that it leaves. -/
theorem Task.run_each_cons_eq {α β : Type} {programs : Programs σ} {work : α → Task β} {item : α}
    {rest : List α} {world final : World σ} {result : β} {others : List β}
    (done : (Task.each work (item :: rest)).run programs world = (result :: others, final)) :
    ((work item).run programs world).1 = result ∧
      (Task.each work rest).run programs ((work item).run programs world).2 = (others, final) := by
  rw [run_each_cons] at done
  -- The results and the world are taken apart from each other.
  obtain ⟨results, left⟩ := Prod.mk.inj done
  obtain ⟨head, tail⟩ := List.cons.inj results
  exact ⟨head, Prod.ext tail left⟩

/-- A result among those of work on many things is that of one of them, on the world by then. -/
theorem Task.run_each_split {α β : Type} {programs : Programs σ} {work : α → Task β}
    {items : List α} {world final : World σ} {earlier later : List β} {result : β}
    (done : (Task.each work items).run programs world = (earlier ++ result :: later, final)) :
    ∃ before item after start left, items = before ++ item :: after ∧
      (Task.each work before).run programs world = (earlier, start) ∧
      (work item).run programs start = (result, left) ∧
      (Task.each work after).run programs left = (later, final) := by
  -- The induction is on the results before, each of which is that of the first thing that is left.
  induction earlier generalizing items world with
  | nil =>
    cases items with
    | nil => cases done
    | cons item rest =>
      obtain ⟨here, behind⟩ := run_each_cons_eq done
      exact ⟨[], item, rest, world, _, rfl, rfl, Prod.ext here rfl, behind⟩
  | cons first earlier ih =>
    cases items with
    | nil => cases done
    | cons item rest =>
      obtain ⟨here, rest⟩ := run_each_cons_eq done
      -- What is cut off of the rest is cut off behind the first thing as well.
      obtain ⟨before, other, after, start, left, rfl, front, own, behind⟩ := ih rest
      refine ⟨item :: before, other, after, start, left, rfl, ?_, own, behind⟩
      rw [run_each_cons, front, here]

/-- The name of the PNG of an image whose name has a stem. -/
def pngName (stem : Name) : Name := stem ++ '.' :: "png".toList

/-- The PNG of an image is named by the stem of that, unless the stem is a mere dot. -/
theorem pngPath_cases {input : Path} {name : Name} (ends : input.EndsIn name)
    (outputDir? : Option Path) :
    (pngPath input outputDir?).EndsIn (pngName (Path.splitName name).1) ∨
      (Path.splitName name).1 = ['.'] ∧ outputDir? = none ∧
        pngPath input outputDir? = ⟨input.lastCut.1 ++ ['.', '.']⟩ := by
  obtain ⟨some, dotless, whole⟩ := pngExtension_plain
  -- Only beside the image can its extension be taken off a name that is a dot.
  cases outputDir? with
  | some dir => exact .inl (ends.withStemIn some dotless whole dir)
  | none =>
    have made : (_ ∧ input.withExtension "png".toList = _) ∨ _ := ends.withExtension
    rcases made with ⟨dot, up⟩ | ⟨-, spelled⟩
    · exact .inr ⟨dot, rfl, up⟩
    · left
      -- The new name is one name, for the old one had no slash in it.
      have separate : '/' ∉ (Path.splitName name).1 ++ '.' :: "png".toList := by
        simp [ends.slash_notMem_stem]
      rw [pngPath, spelled]
      exact Path.endsIn_of_front input.lastCut_front separate
        (Path.isEntryName_append _ some dotless)

/-- Images that have one PNG have one stem. -/
theorem stem_of_pngPath {input other : Path} {name last : Name} {outputDir? : Option Path}
    (ends : input.EndsIn name) (otherEnds : other.EndsIn last)
    (same : pngPath input outputDir? = pngPath other outputDir?) : input.stem? = other.stem? := by
  rw [ends.stem?_eq, otherEnds.stem?_eq]
  -- A path that ends in two dots has no name, and any other one is named by the stem.
  rcases pngPath_cases ends outputDir? with first | ⟨first, -, up⟩ <;>
    rcases pngPath_cases otherEnds outputDir? with second | ⟨second, -, back⟩
  · -- Two paths with names have the same one, and with it the same stem.
    rw [same] at first
    have names := Option.some.inj (first.named.symm.trans second.named)
    rw [List.append_inj_left' names rfl]
  · -- One of them has a name and the other has none.
    rw [same, back] at first
    have none := first.named.symm.trans (Path.fileName?_of_back other.lastCut_front)
    cases none
  · rw [← same, up] at second
    have none := second.named.symm.trans (Path.fileName?_of_back input.lastCut_front)
    cases none
  · rw [first, second]

/-- What is named like a PNG need not be converted. -/
theorem needsConversion_of_pngName {input : Path} {stem : Name}
    (named : input.fileName? = some (pngName stem)) : needsConversion input = false := by
  have extension : input.extension? = (Path.splitName (pngName stem)).2 := by
    rw [Path.extension?, named, Option.bind_some]
  unfold needsConversion lowerExtension
  rw [extension]
  -- A name of nothing but an extension has none, and any other one has that of a PNG.
  by_cases empty : stem = []
  · subst empty
    decide
  · rw [pngName, Path.splitName_append empty pngExtension_plain.2.1]
    show convertibleExtensions.any (·.toList = lowerAsciiChars "png".toList) = false
    decide

/-- Where a folder stands nothing is written. -/
theorem Files.Alters.of_folder {files later : Files} {location : Location}
    {written : Location → Prop} (altered : Alters (· = location) files later)
    (stood : files.entry? location = some .folder) : Alters written files later := by
  refine ⟨altered.current, altered.tree, fun other => ?_⟩
  -- Only the location itself may have been written, and a folder stands there.
  rcases altered.entry other with same | made | ⟨rfl, free, -⟩
  · exact .inl same
  · exact .inr (.inl made)
  · exact absurd stood free

namespace ImageConverter

/-- A location that a conversion of an image may write to: there is a tool, and it is so named. -/
def MayWrite (converter : ImageConverter) (input : Path) (location : Location) : Prop :=
  (converter.toolFor (lowerExtension input)).isOk = true ∧
    ∃ stem, input.stem? = some stem ∧ location.getLast? = some (pngName stem)

variable {converter : ImageConverter} {outputDir? : Option Path} {input : Path}
  {programs : Programs σ} {world : World σ}

/-- A tool is started for an image and the path of its PNG. -/
def command (converter : ImageConverter) (tool : ImageTool) (program input output : Path) :
    Command :=
  { program, arguments := tool.arguments input output, limit := converter.limit }

/-- Without a tool for the format of an image nothing is done. -/
theorem convert_run_of_no_tool (outputDir? : Option Path) (programs : Programs σ) (world : World σ)
    (missing : (converter.toolFor (lowerExtension input)).isOk = false) :
    ∃ error, (converter.convert outputDir? input).run programs world = (.error error, world) := by
  -- The tool is sought by the extension, before anything is asked for.
  show ∃ error, Task.run programs (if decide _ = true then _ else _) world = _
  split
  case isFalse => exact ⟨_, rfl⟩
  case isTrue =>
    cases found : converter.toolFor (lowerExtension input) with
    | ok entry =>
      rw [found] at missing
      cases missing
    | error error => exact ⟨error, rfl⟩

/-- A PNG that is reported was made by a tool that was started for the image and ended well. -/
theorem convert_run_ok {path : Path} {left : World σ}
    (done : (converter.convert outputDir? input).run programs world = (.ok path, left)) :
    path = pngPath input outputDir? ∧ (∃ content, world.files.read input = .ok content) ∧
      ∃ tool program, converter.toolFor (lowerExtension input) = .ok (tool, program) ∧
        startOn programs (converter.command tool program input path)
            ((makeRoomFor path).run programs world).2.files
            ((makeRoomFor path).run programs world).2.memory =
          (.ended 0, left.files, left.memory) := by
  have asked : (∃ content, world.files.read input = .ok content) ∨
    (converter.convert outputDir? input).Ends programs world [] _ _ := read_or_idle
  rcases asked with read | idle
  -- An image that is not there is not reported.
  case inr =>
    rw [idle.run] at done
    cases done
  refine (and_left_comm.mp ⟨read, ?_⟩)
  change Task.run programs (if decide _ = true then _ else _) world = _ at done
  split at done
  case isFalse => cases done
  -- The image has to be of a kind that some tool handles.
  cases found : converter.toolFor (lowerExtension input) with
  | error error =>
    rw [found] at done
    cases done
  | ok entry =>
    obtain ⟨tool, program⟩ := entry
    rw [found] at done
    change (Task.bind (makeRoomFor _) _).run programs world = _ at done
    rw [run_bind] at done
    -- Then its folder has to be there or to be made.
    cases made : (makeRoomFor (pngPath input outputDir?)).run programs world with
    | mk answer start =>
    rw [made] at done
    cases answer with
    | error error => cases done
    | ok =>
      change Task.run programs (.start (converter.command tool program input _) _) start = _ at done
      rw [Task.run] at done
      cases started : startOn programs (converter.command tool program input
        (pngPath input outputDir?)) start.files start.memory with
      | mk outcome rest =>
      rw [started] at done
      -- Of all ways for the tool to end only one is reported as a PNG.
      cases outcome with
      | ended code =>
        cases code with
        | succ code => cases done
        | zero =>
          cases done
          exact ⟨rfl, tool, program, rfl, by rw [made, started]⟩
      | _ => cases done

/-- A conversion of an image writes nowhere else than where it may. -/
theorem convert_mayWrite (tree : world.files.IsTree) (writes : WriteOutputs programs) :
    Alters (converter.MayWrite input) world.files
      ((converter.convert outputDir? input).run programs world).2.files := by
  -- Without a tool nothing is done, and neither without the image.
  by_cases handled : (converter.toolFor (lowerExtension input)).isOk = true
  case neg =>
    obtain ⟨error, alone⟩ :=
      convert_run_of_no_tool outputDir? programs world (Bool.eq_false_iff.mpr handled)
    rw [alone]
    exact .refl _
  have asked : (∃ content, world.files.read input = .ok content) ∨
    (converter.convert outputDir? input).Ends programs world [] _ _ := read_or_idle
  rcases asked with ⟨content, read⟩ | idle
  case inr =>
    rw [idle.run]
    exact .refl _
  obtain ⟨name, ends⟩ := endsIn_of_read tree read
  have altered : AltersPng outputDir? input world.files
    ((converter.convert outputDir? input).run programs world).2.files := convert_alters writes
  -- What is written is the PNG by its name, or what a path with two dots leads to.
  rcases pngPath_cases ends outputDir? with named | ⟨-, -, up⟩
  · refine Alters.mono altered fun location same => ⟨handled, _, ends.stem?_eq, ?_⟩
    rw [same, named.getLast?_place]
  · -- A path that ends in two dots leads to a folder, and that is not written over.
    have file := (read_eq_ok_iff.mp read).2
    rw [ends.place_eq] at file
    have around := tree.parent file
    rw [List.dropLast_concat] at around
    have place : world.files.place (pngPath input outputDir?) =
        (world.files.place ⟨input.lastCut.1⟩).dropLast := by
      rw [up, Path.place_of_front input.lastCut_front (by decide) rfl]
      rfl
    unfold AltersPng at altered
    rw [place] at altered
    exact altered.of_folder (tree.parent around)

variable (converter outputDir?)

/-- One image among many is converted, and the outcome is told. -/
theorem convertOne_run (programs : Programs σ) (input : Path) (world : World σ) :
    ∃ warnings, (converter.convertOne outputDir? input).run programs world =
      (⟨input, ((converter.convert outputDir? input).run programs world).1⟩,
        { ((converter.convert outputDir? input).run programs world).2 with warnings }) := by
  show ∃ warnings, (Task.bind (converter.convert outputDir? input) _).run programs world = _
  simp only [run_bind]
  cases ((converter.convert outputDir? input).run programs world).1 <;> exact ⟨_, rfl⟩

/-- Conversions of many images write nowhere else than where one of them may. -/
theorem each_convertOne_mayWrite (writes : WriteOutputs programs) (images : List Path)
    {world : World σ} (tree : world.files.IsTree) :
    Alters (fun location => ∃ image ∈ images, converter.MayWrite image location) world.files
        ((Task.each (converter.convertOne outputDir?) images).run programs world).2.files ∧
      ((Task.each (converter.convertOne outputDir?) images).run programs world).1.map
        ImageOutcome.input = images := by
  -- Each conversion leaves a tree, so that the same holds of the next one.
  induction images generalizing world with
  | nil => exact ⟨.refl _, rfl⟩
  | cons image rest ih =>
    obtain ⟨warnings, one⟩ := convertOne_run converter outputDir? programs image world
    have first : Alters (converter.MayWrite image) world.files
        ((converter.convertOne outputDir? image).run programs world).2.files := by
      rw [one]
      exact convert_mayWrite tree writes
    obtain ⟨others, inputs⟩ := ih (first.tree tree)
    rw [run_each_cons]
    refine ⟨?_, ?_⟩
    · -- What may be written is what the first may write or what one of the others may.
      refine (first.mono fun location may => ?_).trans (others.mono fun location may => ?_)
      · exact ⟨image, List.mem_cons_self, may⟩
      · obtain ⟨other, member, may⟩ := may
        exact ⟨other, List.mem_cons_of_mem _ member, may⟩
    · rw [List.map_cons, inputs, one]

variable {converter outputDir?}

/-- Around one conversion among many, files are altered only where one of the others may write. -/
theorem each_convertOne_split {images : List Path} {earlier later : List ImageOutcome}
    {outcome : ImageOutcome} {final : World σ} (tree : world.files.IsTree)
    (writes : WriteOutputs programs)
    (run : (Task.each (converter.convertOne outputDir?) images).run programs world =
      (earlier ++ outcome :: later, final)) :
    ∃ start left : World σ, outcome.input ∈ images ∧
      Alters (fun location => ∃ image ∈ images, converter.MayWrite image location) world.files
        start.files ∧
      (converter.convert outputDir? outcome.input).run programs start = (outcome.result, left) ∧
      Alters (fun location => ∃ other ∈ later, converter.MayWrite other.input location) left.files
        final.files := by
  -- The run is cut around the conversion, and what stands before and behind it are runs as well.
  obtain ⟨before, image, after, start, left, rfl, front, own, behind⟩ := Task.run_each_split run
  obtain ⟨warnings, one⟩ := convertOne_run converter outputDir? programs image start
  rw [one] at own
  obtain ⟨rfl, rfl⟩ := Prod.mk.inj own
  have changed := (each_convertOne_mayWrite converter outputDir? writes before tree).1
  rw [front] at changed
  refine ⟨start, _, List.mem_append_right _ List.mem_cons_self, ?_, rfl, ?_⟩
  · exact changed.mono fun location may => may.imp fun image both =>
      ⟨List.mem_append_left _ both.1, both.2⟩
  · have grown : Alters (converter.MayWrite image) start.files
      ((converter.convert outputDir? image).run programs start).2.files :=
      convert_mayWrite (changed.tree tree) writes
    have others := each_convertOne_mayWrite converter outputDir? writes after
      (show Files.IsTree (World.files { ((converter.convert outputDir? image).run programs start).2
        with warnings }) from grown.tree (changed.tree tree))
    obtain ⟨rest, inputs⟩ := others
    rw [behind] at rest inputs
    subst inputs
    refine rest.mono fun location may => ?_
    obtain ⟨other, member, may⟩ := may
    obtain ⟨outcome, among, rfl⟩ := List.mem_map.mp member
    exact ⟨outcome, among, may⟩

/-- Images are looked for among paths, and each one that is found can be read. -/
theorem imagesAmong_run (programs : Programs σ) (world : World σ) (paths : List Path) :
    ∃ images, (imagesAmong paths).run programs world = (images, world) ∧
      ∀ image ∈ images, needsConversion image = true ∧
        ∃ content, world.files.read image = .ok content := by
  induction paths with
  | nil => exact ⟨[], rfl, nofun⟩
  | cons path rest ih =>
    -- Only the front path is asked for now, the others were before it.
    obtain ⟨images, found, sound⟩ := ih
    unfold imagesAmong
    cases needs : needsConversion path with
    | false =>
      refine ⟨images, ?_, sound⟩
      show (Task.bind (imagesAmong rest) _).run programs world = _
      rw [run_bind, found]
      rfl
    | true =>
      show ∃ images, (Task.bind (isFile path) _).run programs world = (images, world) ∧ _
      rw [run_bind]
      show ∃ images, (Task.bind (imagesAmong rest) _).run programs world = (images, world) ∧ _
      rw [run_bind, found]
      -- Whether the path is kept is what the question for a file was answered.
      by_cases there : (world.files.kind path).toOption = some .file
      · refine ⟨path :: images, ?_, ?_⟩
        · simp only [isFile, Task.run, there]
          rfl
        · exact List.forall_mem_cons.mpr ⟨⟨needs, exists_read there⟩, sound⟩
      · refine ⟨images, ?_, sound⟩
        simp only [isFile, Task.run, there]
        rfl

/-- The images of a folder that is converted can be read, and they are converted in order. -/
theorem convertFolder_run_ok {folder : Path} {outcomes : List ImageOutcome}
    (done : ((converter.convertFolder outputDir? folder).run programs world).1 = .ok outcomes) :
    ∃ images, (∀ image ∈ images, needsConversion image = true ∧
        ∃ content, world.files.read image = .ok content) ∧
      (Task.each (converter.convertOne outputDir?) images).run programs world =
        (outcomes, ((converter.convertFolder outputDir? folder).run programs world).2) := by
  -- What cannot be listed has no outcomes; the rest is to find the images and to convert them.
  unfold convertFolder at done ⊢
  rw [Task.run] at done ⊢
  cases listed : world.files.list folder with
  | error fault =>
    rw [listed] at done
    cases done
  | ok names =>
    rw [listed] at done
    -- Finding the images changes nothing, so that the conversions start where the call did.
    obtain ⟨images, found, sound⟩ := imagesAmong_run programs world
      ((names.mergeSort fun a b => !decide (b < a)).map fun name => folder.join ⟨name⟩)
    refine ⟨images, sound, ?_⟩
    change ((Task.bind (imagesAmong _) _).run programs world).1 = _ at done
    change _ = (_, ((Task.bind (imagesAmong _) _).run programs world).2)
    rw [run_bind, found] at done ⊢
    change ((Task.bind (Task.each _ _) _).run programs world).1 = _ at done
    change _ = (_, ((Task.bind (Task.each _ _) _).run programs world).2)
    rw [run_bind] at done ⊢
    rw [← Except.ok.inj done]
    rfl

/-- An image is not where the PNG of an image may be written. -/
theorem not_mayWrite_image {files : Files} {image : Path} {name : Name} (ends : image.EndsIn name)
    (needs : needsConversion image = true) (other : Path) :
    ¬ converter.MayWrite other (files.place image) := by
  -- What may be written is named like a PNG, and such a name needs no conversion.
  rintro ⟨-, stem, -, named⟩
  rw [ends.getLast?_place] at named
  have free := needsConversion_of_pngName (ends.named.trans named)
  rw [needs] at free
  cases free

/--
A tool was started for an image, which was still as on some files, and for the path of its PNG. It
ended well and left other files.
-/
def ToolLeft (converter : ImageConverter) (programs : Programs σ) (files : Files)
    (input path : Path) (left : Files) : Prop :=
  ∃ (content : Bytes) (tool : ImageTool) (program : Path) (start : World σ) (memory : σ),
    files.read input = .ok content ∧ start.files.read input = .ok content ∧
    converter.toolFor (lowerExtension input) = .ok (tool, program) ∧
    startOn programs (converter.command tool program input path) start.files start.memory =
      (.ended 0, left, memory)

/-- A tool leaves the PNG that is reported of an image that nothing was written to before. -/
theorem toolLeft_of_run {files : Files} {path : Path} {start left : World σ} {content : Bytes}
    {written : Location → Prop} (before : Alters written files start.files)
    (unwritten : ¬ written (files.place input)) (read : files.read input = .ok content)
    (own : (converter.convert outputDir? input).run programs start = (.ok path, left)) :
    converter.ToolLeft programs files input path left.files := by
  obtain ⟨-, -, tool, program, found, started⟩ := convert_run_ok own
  -- Making room for the PNG writes nothing, and the tool is started behind that.
  have room : Alters (fun _ => False) start.files
      ((makeRoomFor path).run programs start).2.files :=
    (makeRoomFor_asks path).run (fun _ makes _ _ does => makes.alters does) Alters.refl
      (fun first last => first.trans last) start
  exact ⟨content, tool, program, _, left.memory, read, room.read id (before.read unwritten read),
    found, started⟩

/-- Where a PNG is, no image may be written that has another stem or that there is no tool for. -/
theorem not_mayWrite_png {files : Files} {other : Path} {name : Name} {content : Bytes}
    (tree : files.IsTree) (ends : input.EndsIn name)
    (read : files.read (pngPath input outputDir?) = .ok content)
    (apart : other.stem? = input.stem? →
      (converter.toolFor (lowerExtension other)).isOk = false) :
    ¬ converter.MayWrite other (files.place (pngPath input outputDir?)) := by
  rintro ⟨handled, stem, stems, named⟩
  obtain ⟨last, output⟩ := endsIn_of_read tree read
  rw [output.getLast?_place] at named
  obtain rfl := Option.some.inj named
  -- What is named like the PNG of another image is so named for the same stem.
  have same : other.stem? = input.stem? := by
    rw [stems, ends.stem?_eq]
    rcases pngPath_cases ends outputDir? with own | ⟨-, -, up⟩
    · have names := Option.some.inj (output.named.symm.trans own.named)
      rw [List.append_inj_left' names rfl]
    · rw [up] at output
      have none := output.named.symm.trans (Path.fileName?_of_back input.lastCut_front)
      cases none
  -- Then no tool handles the other image, and it writes nothing.
  rw [apart same] at handled
  cases handled

/-- A PNG that is reported among many has the path of the PNG of its image. -/
theorem spelled_of_reported {images : List Path} {outcomes : List ImageOutcome} {final : World σ}
    (tree : world.files.IsTree) (writes : WriteOutputs programs)
    (readable : ∀ image ∈ images, ∃ content, world.files.read image = .ok content)
    (run : (Task.each (converter.convertOne outputDir?) images).run programs world =
      (outcomes, final)) {outcome : ImageOutcome} (member : outcome ∈ outcomes) {path : Path}
    (ok : outcome.result = .ok path) :
    path = pngPath outcome.input outputDir? ∧ ∃ name, outcome.input.EndsIn name := by
  -- Only the run of this image decides its result, whatever the others do.
  obtain ⟨earlier, later, rfl⟩ := List.append_of_mem member
  obtain ⟨start, left, among, -, own, -⟩ := each_convertOne_split tree writes run
  rw [ok] at own
  obtain ⟨content, read⟩ := readable _ among
  exact ⟨(convert_run_ok own).1, endsIn_of_read tree read⟩

/--
Two PNGs that are reported for images of a folder have one path only if the images have one stem. A
PNG that is reported is, after all of them, as the tool left it that was started for its image as it
was, unless an image with the same stem comes later that there is a tool for.
-/
theorem convertFolder_keeps {folder : Path} {outcomes : List ImageOutcome}
    (tree : world.files.IsTree) (writes : WriteOutputs programs)
    (done : ((converter.convertFolder outputDir? folder).run programs world).1 = .ok outcomes) :
    (∀ first ∈ outcomes, ∀ second ∈ outcomes, ∀ path,
      first.result = .ok path → second.result = .ok path →
        first.input.stem? = second.input.stem?) ∧
    ∀ earlier outcome later path, outcomes = earlier ++ outcome :: later →
      outcome.result = .ok path →
      ∃ left, converter.ToolLeft programs world.files outcome.input path left ∧
        ((∀ other ∈ later, other.input.stem? = outcome.input.stem? →
            (converter.toolFor (lowerExtension other.input)).isOk = false) →
          ∀ content, left.read path = .ok content →
            ((converter.convertFolder outputDir? folder).run programs world).2.files.read path =
              .ok content) := by
  obtain ⟨images, sound, run⟩ := convertFolder_run_ok done
  generalize ((converter.convertFolder outputDir? folder).run programs world).2 = final at run ⊢
  have readable := fun image member => (sound image member).2
  refine ⟨?_, ?_⟩
  · -- Both are written to the path that is spelled for them.
    intro first one second other path here there
    obtain ⟨same, name, ends⟩ := spelled_of_reported tree writes readable run one here
    obtain ⟨again, last, otherEnds⟩ := spelled_of_reported tree writes readable run other there
    exact stem_of_pngPath ends otherEnds (same.symm.trans again)
  · rintro earlier outcome later path rfl ok
    obtain ⟨rfl, name, ends⟩ := spelled_of_reported tree writes readable run (by simp) ok
    obtain ⟨start, left, among, before, own, after⟩ := each_convertOne_split tree writes run
    obtain ⟨needs, content, read⟩ := sound _ among
    rw [ok] at own
    -- No conversion before has written to the image, and none behind it to its PNG.
    have untouched : ¬ ∃ image ∈ images, converter.MayWrite image (world.files.place outcome.input)
      | ⟨other, _, may⟩ => not_mayWrite_image ends needs other may
    refine ⟨left.files, toolLeft_of_run before untouched read own, fun quiet held kept => ?_⟩
    -- The PNG is there behind its own conversion, and stays through those that follow.
    have grown : Alters (converter.MayWrite outcome.input) start.files
        ((converter.convert outputDir? outcome.input).run programs start).2.files :=
      convert_mayWrite (before.tree tree) writes
    rw [own] at grown
    refine after.read ?_ kept
    rintro ⟨other, behind, may⟩
    exact not_mayWrite_png (grown.tree (before.tree tree)) ends kept (quiet other behind) may

end ImageConverter

/-- Programs that copy the file that is named first to the one that is named last. -/
def copier : Programs Unit := fun command files memory =>
  match files.read (Path.ofString (command.arguments.headD "")) with
  | .error _ => (.ended 1, files, memory)
  | .ok content =>
    match files.write (Path.ofString (command.arguments.getLastD "")) content with
    | .ok left => (.ended 0, left, memory)
    | .error _ => (.ended 1, files, memory)

/-- A copy is written to the file that a tool is to write, and nowhere else. -/
theorem writeOutputs_copier : WriteOutputs copier := by
  intro tool program input output limit files memory
  -- The copier writes to the path it is given, if there was something to copy.
  unfold copier
  rw [ImageTool.output_arguments]
  split
  · exact .refl files
  case h_2 content _ =>
    cases written : files.write output content with
    | ok left => exact (hasPut_of_write written).alters rfl
    | error fault => exact .refl files

/-- A folder of three images, two of which have one stem. -/
def album : World Unit where
  files.entries := [(["pics".toList], .folder), (["pics".toList, "a.bmp".toList], .file [1]),
    (["pics".toList, "a.gif".toList], .file [2]), (["pics".toList, "b.bmp".toList], .file [3])]
  memory := ()

deriving instance DecidableEq for ImageOutcome

/-- What becomes of the images: those with one stem have one PNG, and the later one is there. -/
theorem convertFolder_album :
    ((magick.convertFolder none (.ofString "pics")).run copier album).1 =
        .ok [⟨.ofString "pics/a.bmp", .ok (.ofString "pics/a.png")⟩,
          ⟨.ofString "pics/a.gif", .ok (.ofString "pics/a.png")⟩,
          ⟨.ofString "pics/b.bmp", .ok (.ofString "pics/b.png")⟩] ∧
      ((magick.convertFolder none (.ofString "pics")).run copier album).2.files.read
          (.ofString "pics/a.png") = .ok [2] := by
  -- Sorting is not evaluated, so the names are given in their order.
  have listed : album.files.list (.ofString "pics") =
      .ok ["a.bmp".toList, "a.gif".toList, "b.bmp".toList] := by decide +kernel
  have sorted : ["a.bmp".toList, "a.gif".toList, "b.bmp".toList].mergeSort
      (fun a b => !decide (b < a)) = ["a.bmp".toList, "a.gif".toList, "b.bmp".toList] :=
    List.mergeSort_of_pairwise (by decide +kernel)
  unfold ImageConverter.convertFolder
  rw [Task.run, listed]
  dsimp only
  rw [sorted]
  decide +kernel

/-- The copy of the later of two images with one stem is there, for no image behind it has that. -/
theorem convertFolder_keeps_album :
    ∃ left, magick.ToolLeft copier album.files (.ofString "pics/a.gif") (.ofString "pics/a.png")
        left ∧
      ∀ content, left.read (.ofString "pics/a.png") = .ok content →
        ((magick.convertFolder none (.ofString "pics")).run copier album).2.files.read
          (.ofString "pics/a.png") = .ok content := by
  obtain ⟨-, kept⟩ := ImageConverter.convertFolder_keeps (.of_entries rfl (by decide +kernel))
    writeOutputs_copier convertFolder_album.1
  obtain ⟨left, made, stays⟩ := kept [_] _ [_] (.ofString "pics/a.png") rfl rfl
  -- The image behind it in the folder has another stem.
  exact ⟨left, made, stays (by decide +kernel)⟩

/-- Two images with one stem are reported to be at one path, and the earlier one is not there. -/
theorem convertFolder_collides : WriteOutputs copier ∧
    ∃ outcomes, ((magick.convertFolder none (.ofString "pics")).run copier album).1 =
        .ok outcomes ∧
      (¬ outcomes.Pairwise fun first second =>
        ∀ path, first.result = .ok path → second.result ≠ .ok path) ∧
      ∃ outcome ∈ outcomes, ∃ path, outcome.result = .ok path ∧
        ((magick.convertFolder none (.ofString "pics")).run copier album).2.files.read path ≠
          album.files.read outcome.input := by
  refine ⟨writeOutputs_copier, _, convertFolder_album.1, ?_, ?_⟩
  · -- Two images report the same path.
    intro apart
    exact (List.pairwise_cons.mp apart).1 _ List.mem_cons_self _ rfl rfl
  · -- The one that is converted first finds the other's PNG there in the end.
    refine ⟨_, List.mem_cons_self, _, rfl, ?_⟩
    rw [convertFolder_album.2]
    decide +kernel

end Manuscript
