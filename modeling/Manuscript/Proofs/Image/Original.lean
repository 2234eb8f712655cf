import Manuscript.Image.Converter
import Manuscript.Proofs.Files.Alteration
import Manuscript.Proofs.Task.Starts

/-!
What the conversion of an image does to the image itself. It is kept, unless it is a PNG already and
the path of the converted image leads to where it stands: a tool is told to write it then.
-/

namespace Manuscript

open Manuscript.Files Manuscript.Task

variable {σ : Type}

/-- Programs that write nothing but the file that an image tool is told to write. -/
def WriteOutputs (programs : Programs σ) : Prop :=
  ∀ (tool : ImageTool) (program input output : Path) (limit : Duration) (files : Files)
      (memory : σ),
    Alters (· = files.place output) files
      (programs { program, arguments := tool.arguments input output, limit } files memory).2.1

/-- The extension of PNG images. -/
theorem pngExtension_plain : "png".toList ≠ [] ∧ '.' ∉ "png".toList ∧ '/' ∉ "png".toList := by
  decide

/-- The PNG of an image stands elsewhere than the image, unless that is called a PNG too. -/
theorem extension_of_pngPath {files : Files} {input : Path} {outputDir? : Option Path} {name : Name}
    (ends : input.EndsIn name)
    (same : files.place (pngPath input outputDir?) = files.place input) :
    input.extension? = some "png".toList := by
  obtain ⟨some, dotless, whole⟩ := pngExtension_plain
  -- A path that leads to where the image stands ends in the name of the image.
  have spelled : name = (Path.splitName name).1 ++ '.' :: "png".toList := by
    cases outputDir? with
    | none => exact ends.name_of_withExtension some dotless whole same
    | some dir => exact ends.name_of_withStemIn some dotless whole same
  rw [Path.extension?, ends.named, Option.bind_some, spelled,
    Path.splitName_append ends.stem_ne_nil dotless]

/-- A file that is there can be read. -/
theorem Files.exists_read {files : Files} {path : Path}
    (there : (files.kind path).toOption = some .file) : ∃ content, files.read path = .ok content := by
  unfold Files.kind at there
  unfold Files.read
  -- Both questions are answered by what is found at the path.
  cases found : files.find path with
  | error fault =>
    rw [found] at there
    cases there
  | ok entry =>
    rw [found] at there
    cases entry with
    | file content => exact ⟨content, rfl⟩
    | folder => cases there

namespace ImageConverter

/-- What a conversion may ask for: folders, and one of its tools for the image and its PNG. -/
def MayAsk (converter : ImageConverter) (outputDir? : Option Path) (input : Path)
    (request : Request) : Prop :=
  request.MakesFolders ∨ ∃ tool program, (tool, program) ∈ converter.tools ∧
    request = .start
      { program, arguments := tool.arguments input (pngPath input outputDir?),
        limit := converter.limit }

/-- What a conversion does to files: they are altered only where the PNG is to stand. -/
def AltersPng (outputDir? : Option Path) (input : Path) (files later : Files) : Prop :=
  Alters (· = files.place (pngPath input outputDir?)) files later

variable {converter : ImageConverter} {outputDir? : Option Path} {input : Path}

/-- Where the PNG is to stand stays the same when files are altered there. -/
theorem AltersPng.trans {first between last : Files}
    (earlier : AltersPng outputDir? input first between)
    (further : AltersPng outputDir? input between last) :
    AltersPng outputDir? input first last := by
  unfold AltersPng at further
  -- No folder was lost, so that the PNG is at the same place still.
  rw [Alters.place earlier] at further
  exact Alters.trans earlier further

variable (converter outputDir? input) in
/-- A conversion asks for nothing but folders and a tool for the image and its PNG. -/
theorem convert_asks :
    (converter.convert outputDir? input).Asks (converter.MayAsk outputDir? input) := by
  refine ⟨.inl trivial, fun answer => ?_⟩
  show Asks _ (if _ then _ else _)
  split
  case isFalse => trivial
  -- Without a tool for its format nothing more is asked for.
  cases found : converter.tools.find? fun entry => entry.1.handles (lowerExtension input) with
  | none =>
    rw [toolFor, found]
    trivial
  | some entry =>
    obtain ⟨tool, program⟩ := entry
    rw [toolFor, found]
    have room : (makeRoomFor (pngPath input outputDir?)).Asks (converter.MayAsk outputDir? input) :=
      (makeRoomFor_asks _).weaken fun _ => .inl
    refine room.bind fun made => ?_
    -- The tool is started only if there is room for the PNG.
    cases made with
    | error error => trivial
    | ok =>
      refine ⟨.inr ⟨tool, program, List.mem_of_find?_eq_some found, rfl⟩, fun outcome => ?_⟩
      cases outcome with
      | ended code => cases code <;> trivial
      | _ => trivial

/-- What a conversion asks for alters files only where the PNG is to stand. -/
theorem MayAsk.alters {programs : Programs σ} (writes : WriteOutputs programs) {request : Request}
    (asked : converter.MayAsk outputDir? input request) {world : World σ} {left : Files}
    (does : request.Does programs world left) : AltersPng outputDir? input world.files left := by
  -- Folders that are made alter nothing else, and the tool writes where it is told to.
  rcases asked with makes | ⟨tool, program, -, rfl⟩
  · exact makes.alters does
  · obtain rfl : left = _ := does
    unfold startOn
    split
    · exact .refl _
    · exact writes ..

variable {programs : Programs σ} {world : World σ}

/-- A conversion alters files only where the PNG is to stand. -/
theorem convert_alters (writes : WriteOutputs programs) :
    AltersPng outputDir? input world.files
      ((converter.convert outputDir? input).run programs world).2.files :=
  (convert_asks converter outputDir? input).run (fun _ asked _ _ => asked.alters writes)
    (fun files => Alters.refl files) AltersPng.trans world

/-- Of an image that is not there nothing is asked but whether it is. -/
theorem read_or_idle :
    (∃ content, world.files.read input = .ok content) ∨
      (converter.convert outputDir? input).Ends programs world [] (.error (.io input missingReason))
        world := by
  -- Whether there is a file is what the conversion asks first.
  by_cases there : (world.files.kind input).toOption = some .file
  · exact .inl (exists_read there)
  · right
    have answer : decide ((world.files.kind input).toOption = some .file) = false :=
      decide_eq_false there
    -- Without a file there neither a start nor a change is asked for.
    constructor
    · show Task.starts programs (if decide _ = true then _ else _) world = _
      rw [answer]
      rfl
    · show Task.run programs (if decide _ = true then _ else _) world = _
      rw [answer]
      rfl

/--
A conversion starts nothing but one of its tools for the image and its PNG, and where programs write
nothing but what the tools are told to write, it leaves the image as it was. Of an image that is a
PNG already this needs that the path of the converted one leads elsewhere.
-/
theorem convert_keeps_image (tree : world.files.IsTree) (writes : WriteOutputs programs)
    (other : input.extension? = some "png".toList →
      world.files.place (pngPath input outputDir?) ≠ world.files.place input) :
    (∀ command ∈ (converter.convert outputDir? input).starts programs world,
      ∃ tool : ImageTool, command.arguments = tool.arguments input (pngPath input outputDir?) ∧
        world.files.place (pngPath input outputDir?) ≠ world.files.place input) ∧
    ((converter.convert outputDir? input).run programs world).2.files.read input =
      world.files.read input := by
  -- An image that can be read ends in its name, and that is what tells the two paths apart.
  have apart : ∀ {content}, world.files.read input = .ok content →
      world.files.place (pngPath input outputDir?) ≠ world.files.place input := by
    intro content read same
    obtain ⟨name, ends⟩ := endsIn_of_read tree read
    exact other (extension_of_pngPath ends same) same
  constructor
  · intro command started
    rcases read_or_idle with ⟨content, read⟩ | idle
    · rcases (convert_asks converter outputDir? input).starts programs world command started with
        makes | ⟨tool, program, -, same⟩
      · cases makes
      · cases same
        exact ⟨tool, rfl, apart read⟩
    · rw [idle.starts] at started
      cases started
  · -- What is written is the PNG, which is not the image.
    rcases read_or_idle with ⟨content, read⟩ | idle
    · rw [Alters.read (convert_alters writes) (apart read).symm read, read]
    · rw [idle.run]

end ImageConverter

/-- Programs that write a byte to the file that is named last. -/
def painter : Programs Unit := fun command files memory =>
  match files.write (Path.ofString (command.arguments.getLastD "")) [1] with
  | .ok left => (.ended 0, left, memory)
  | .error _ => (.ended 1, files, memory)

/-- The file that an image tool is to write is named last. -/
theorem ImageTool.output_arguments (tool : ImageTool) (input output : Path) :
    Path.ofString ((tool.arguments input output).getLastD "") = output := by
  have same : Path.ofString output.text = output := by simp [Path.ofString, Path.text]
  cases tool <;> exact same

/-- Such programs write nothing but that file. -/
theorem writeOutputs_painter : WriteOutputs painter := by
  intro tool program input output limit files memory
  unfold painter
  rw [ImageTool.output_arguments]
  -- The program writes its output file or leaves all as it is.
  cases written : files.write output [1] with
  | ok left => exact (hasPut_of_write written).alters rfl
  | error fault => exact .refl files

/-- Two images in the current folder. -/
def photos : World Unit where
  files.entries := [(["photo.bmp".toList], .file [0]), (["photo.png".toList], .file [0])]
  memory := ()

/-- A converter with one tool. -/
def magick : ImageConverter where
  tools := [(.imageMagick, .ofString "magick")]

/-- A bitmap is the same after its conversion, for which a tool was started. -/
theorem convert_keeps_image_bitmap :
    (magick.convert none (.ofString "photo.bmp")).starts painter photos ≠ [] ∧
    ((magick.convert none (.ofString "photo.bmp")).run painter photos).2.files.read
        (.ofString "photo.bmp") =
      photos.files.read (.ofString "photo.bmp") :=
  -- A tool is started, and all it writes is the PNG beside the image.
  ⟨by decide +kernel, (ImageConverter.convert_keeps_image (.of_entries rfl (by decide +kernel))
    writeOutputs_painter (by decide +kernel)).2⟩

/-- A PNG is written over by the tool that is started for it. -/
theorem convert_overwrites_image : WriteOutputs painter ∧
    (∃ command ∈ (magick.convert none (.ofString "photo.png")).starts painter photos,
      command.arguments =
        ImageTool.imageMagick.arguments (.ofString "photo.png") (.ofString "photo.png")) ∧
    ((magick.convert none (.ofString "photo.png")).run painter photos).2.files.read
        (.ofString "photo.png") ≠
      photos.files.read (.ofString "photo.png") :=
  -- A PNG is converted to itself.
  ⟨writeOutputs_painter, by decide +kernel⟩

end Manuscript
