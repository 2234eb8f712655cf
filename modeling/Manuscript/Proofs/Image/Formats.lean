import Manuscript.Proofs.Image.Original
import Manuscript.Proofs.Path.Components

/-!
The formats that images are included in and those that are converted. No image is both, and an
image is converted to one that is included as it stands: a PNG with the stem of the image, beside it
or in the given folder. The one exception is an image whose name is two dots and its extension.
-/

namespace Manuscript

/-- A path lies in a folder: its parent is the folder, whatever is idle in their spellings. -/
def Path.LiesIn (path folder : Path) : Prop :=
  ∃ parent, path.parent? = some parent ∧ parent.same folder = true

/-- A path is that of the PNG of an image in a folder. -/
structure IsPngOf (png image folder : Path) : Prop where
  /-- It is included as it stands. -/
  native : ImageFormat.ofPath png = .native
  /-- It has the stem of the image, with the dots in it. -/
  stem : png.stem? = image.stem?
  /-- It is another path than the image. -/
  other : png.same image = false
  /-- It lies in the folder. -/
  inside : png.LiesIn folder

variable {path image : Path} {stem extension : List Char}

/-- An image that is included as it stands is not converted. -/
theorem needsConversion_of_native (native : ImageFormat.ofPath path = .native) :
    needsConversion path = false := by
  unfold ImageFormat.ofPath at native
  unfold needsConversion
  generalize lowerExtension path = extension at native ⊢
  dsimp only at native
  -- There are four such extensions, and none is among those of images to be converted.
  split at native
  case isTrue among =>
    simp only [List.any_cons, List.any_nil, Bool.or_false, Bool.or_eq_true, decide_eq_true_eq]
      at among
    rcases among with rfl | rfl | rfl | rfl <;> rfl
  all_goals repeat' split at native
  all_goals cases native

/-- An image of a known raster format is converted. -/
theorem needsConversion_of_raster {format : RasterFormat}
    (raster : ImageFormat.ofPath path = .raster format) : needsConversion path = true := by
  unfold ImageFormat.ofPath at raster
  unfold needsConversion
  generalize lowerExtension path = extension at raster ⊢
  dsimp only at raster
  -- Each of the raster formats has its extensions, which are looked at one by one.
  split at raster
  · -- The formats that need no conversion are not raster formats here.
    cases raster
  split at raster
  case isTrue bmp =>
    rw [bmp]
    rfl
  split at raster
  case isTrue tiff =>
    simp only [List.any_cons, List.any_nil, Bool.or_false, Bool.or_eq_true, decide_eq_true_eq]
      at tiff
    rcases tiff with rfl | rfl <;> rfl
  split at raster
  case isTrue gif =>
    rw [gif]
    rfl
  split at raster
  case isTrue webp =>
    rw [webp]
    rfl
  · cases raster

/-- The parts of a name with an extension are those of a path that it is the name of. -/
theorem Path.parts_of_named (named : path.fileName? = some (stem ++ '.' :: extension))
    (inner : stem ≠ []) (dotless : '.' ∉ extension) :
    path.stem? = some stem ∧ path.extension? = some extension := by
  rw [stem?, extension?, named, Option.map_some, Option.bind_some, splitName_append inner dotless]
  exact ⟨rfl, rfl⟩

/-- An image that is converted has a name with an extension that is not empty, nor that of PNG. -/
theorem exists_named_of_needsConversion (converts : needsConversion image = true) :
    ∃ stem extension, image.fileName? = some (stem ++ '.' :: extension) ∧ stem ≠ [] ∧
      '.' ∉ extension ∧ extension ≠ [] ∧ extension ≠ "png".toList := by
  -- Without an extension, or with that of PNG, there is nothing to convert.
  have present : ∃ extension, image.extension? = some extension ∧ extension ≠ [] ∧
      extension ≠ "png".toList := by
    unfold needsConversion lowerExtension at converts
    cases given : image.extension? with
    | none =>
      rw [given] at converts
      cases converts
    | some extension =>
      rw [given, Option.getD_some] at converts
      refine ⟨extension, rfl, ?_, ?_⟩
      · rintro rfl
        cases converts
      · rintro rfl
        cases converts
  obtain ⟨extension, given, some, other⟩ := present
  rw [Path.extension?, Option.bind_eq_some_iff] at given
  obtain ⟨name, named, split⟩ := given
  -- With an extension the name is a stem, a dot and the extension.
  rcases Path.splitName_cases name with bare | ⟨stem, found, inner, dotless, spelled, parts⟩
  · rw [bare] at split
    cases split
  · rw [parts, Option.some.injEq] at split
    subst split
    exact ⟨stem, found, spelled ▸ named, inner, dotless, some, other⟩

/-- Paths with different names are different, whatever is idle in their spellings. -/
theorem Path.same_of_named {path other : Path} {name last : Name}
    (named : path.fileName? = some name) (otherNamed : other.fileName? = some last)
    (apart : name ≠ last) : path.same other = false := by
  refine decide_eq_false fun same => apart ?_
  rw [components_of_named named, components_of_named otherNamed] at same
  -- Equal paths have the same last component.
  exact Component.name.inj (List.cons.inj (List.append_inj_right' same rfl)).1

/-- A path lies in the folder that leads to where its last name stands. -/
theorem Path.liesIn_of_components {folder : Path} (last : path.lastCut.2 ≠ [])
    (inside : components ⟨path.lastCut.1⟩ = folder.components) : path.LiesIn folder := by
  have above := components_parent? last
  rw [Option.map_eq_some_iff] at above
  -- Both folders have the same components, and that is how paths are compared.
  obtain ⟨parent, found, same⟩ := above
  exact ⟨parent, found, decide_eq_true (same.trans inside)⟩

/-- No slash stands in a file name with another extension. -/
theorem Path.slash_notMem_of_named {other : List Char}
    (named : path.fileName? = some (stem ++ '.' :: extension)) (whole : '/' ∉ other) :
    '/' ∉ stem ++ '.' :: other := by
  have own := path.slash_notMem_lastCut
  rw [(lastCut_of_fileName? named).1] at own
  -- The stem and the old extension are pieces of a last component, where no slash stands.
  simp only [List.mem_append, List.mem_cons, not_or] at own ⊢
  exact ⟨own.1, by decide, whole⟩

/-- What is named like an image and stands in a folder is the path of its PNG there. -/
theorem isPngOf_of_front {front : List Char} {folder : Path} (slash : Path.IsFront front)
    (named : image.fileName? = some (stem ++ '.' :: extension)) (inner : stem ≠ [])
    (dotless : '.' ∉ extension) (other : extension ≠ "png".toList)
    (inside : Path.components ⟨front⟩ = folder.components) :
    IsPngOf ⟨front ++ (stem ++ '.' :: "png".toList)⟩ image folder := by
  -- The extension of the PNG is put behind the stem, and makes a name of its own.
  obtain ⟨some, plain, whole⟩ := pngExtension_plain
  have separate := Path.slash_notMem_of_named named whole
  have entry := Path.isEntryName_append stem some plain
  have step := Path.isStep_of_isEntryName entry
  have cut := (Path.lastCut_of_front slash separate step).2
  have pngNamed := (Path.endsIn_of_front slash separate entry).named
  obtain ⟨pngStem, pngExtension⟩ := Path.parts_of_named pngNamed inner plain
  refine ⟨?_, ?_, ?_, ?_⟩
  · -- The new extension is that of PNG.
    rw [ImageFormat.ofPath, lowerExtension, pngExtension]
    rfl
  · rw [pngStem, (Path.parts_of_named named inner dotless).1]
  · -- The two names differ in their extensions.
    refine Path.same_of_named pngNamed named fun same => other ?_
    exact (List.cons.inj (List.append_cancel_left same)).2.symm
  · refine Path.liesIn_of_components ?_ ?_ <;> rw [cut]
    · simp
    · exact inside

/-- A name in a directory is spelled with the directory before it. -/
theorem Path.exists_front_of_join {dir : Path} {name : Name} (some : dir.chars ≠ [])
    (whole : '/' ∉ name) :
    ∃ front, IsFront front ∧ dir.join ⟨name⟩ = ⟨front ++ name⟩ ∧
      components ⟨front⟩ = dir.components := by
  have relative : ¬ (isAbsolute ⟨name⟩ = true ∨ dir.chars = []) := by
    simp [isAbsolute_of_notMem whole, some]
  -- A slash stands between them, whether the directory ends in one or not.
  rw [join, if_neg relative]
  split
  case isTrue slash =>
    obtain ⟨front, spelled⟩ := List.getLast?_eq_some_iff.mp slash
    exact ⟨dir.chars, .inr ⟨front, spelled⟩, rfl, rfl⟩
  case isFalse =>
    exact ⟨dir.chars ++ ['/'], .inr ⟨dir.chars, rfl⟩, by simp, components_append_slash some⟩

/-- An image has a PNG that belongs to it, in the given folder or else in its own. -/
def HasPng (image : Path) (outputDir? : Option Path) : Prop :=
  ∃ folder, outputDir?.or image.parent? = some folder ∧
    IsPngOf (pngPath image outputDir?) image folder

/-- In a folder that is given each image has its PNG. -/
theorem hasPng_of_dir {dir : Path} (converts : needsConversion image = true)
    (some : dir.chars ≠ []) : HasPng image (.some dir) := by
  -- The folder is not empty, so that it can be spelled in front of the name.
  obtain ⟨stem, extension, named, inner, dotless, -, other⟩ :=
    exists_named_of_needsConversion converts
  have separate := Path.slash_notMem_of_named named pngExtension_plain.2.2
  obtain ⟨front, slash, spelled, inside⟩ := Path.exists_front_of_join some separate
  refine ⟨dir, rfl, ?_⟩
  rw [pngPath, Path.withStemIn, (Path.parts_of_named named inner dotless).1, Option.getD_some,
    spelled]
  exact isPngOf_of_front slash named inner dotless other inside

/-- An image has its PNG beside it, unless its name is two dots and the extension. -/
theorem hasPng_beside_iff (converts : needsConversion image = true) :
    HasPng image none ↔ (image.IsTrim → image.stem? ≠ some ['.']) := by
  obtain ⟨stem, extension, named, inner, dotless, some, other⟩ :=
    exists_named_of_needsConversion converts
  have ownStem := (Path.parts_of_named named inner dotless).1
  constructor
  · rintro ⟨folder, -, png⟩ trim up
    -- The path without the extension leads back, so that it has no name to be extended.
    have ends : image.EndsIn (stem ++ '.' :: extension) := ⟨trim, named⟩
    have back : pngPath image none = ⟨image.lastCut.1 ++ ['.', '.']⟩ := by
      rcases ends.withExtension with ⟨-, back⟩ | ⟨kept, -⟩
      · exact back
      · rw [Path.splitName_append inner dotless] at kept
        exact absurd (Option.some.inj (ownStem.symm.trans up)) kept
    have native := png.native
    rw [back, ImageFormat.ofPath, lowerExtension, Path.extension?,
      Path.fileName?_of_back image.lastCut_front] at native
    cases native
  · intro kept
    -- A path with a name has a folder, which is the parent.
    have last : image.lastCut.2 ≠ [] := by
      rw [(Path.lastCut_of_fileName? named).1]
      simp
    have above := Path.components_parent? last
    rw [Option.map_eq_some_iff] at above
    obtain ⟨parent, found, inside⟩ := above
    refine ⟨parent, found, ?_⟩
    have trimmed : image.IsTrim → stem ≠ ['.'] := fun trim up => kept trim (up ▸ ownStem)
    -- The extension is cut off at its dot, so that the stem is left.
    rw [pngPath, Path.withExtension_eq named inner some dotless trimmed]
    exact isPngOf_of_front image.lastCut_front named inner dotless other inside.symm

/--
An image that is included as it stands is not converted, and one of a known raster format is. What
is converted has its PNG in any folder that is given, and without one beside the image, if only its
name is not two dots and the extension with nothing idle behind it.
-/
theorem formats_agree (image : Path) :
    (ImageFormat.ofPath image = .native → needsConversion image = false) ∧
    (∀ format, ImageFormat.ofPath image = .raster format → needsConversion image = true) ∧
    (needsConversion image = true →
      (∀ dir : Path, dir.chars ≠ [] → HasPng image (some dir)) ∧
      (HasPng image none ↔ (image.IsTrim → image.stem? ≠ some ['.']))) :=
  ⟨needsConversion_of_native, fun _ => needsConversion_of_raster, fun converts =>
    ⟨fun _ => hasPng_of_dir converts, hasPng_beside_iff converts⟩⟩

/-- An image with dots in its stem and something idle behind its name has its PNGs. -/
theorem formats_agree_dottedStem :
    let image := Path.ofString "figs/plot.v2.TIFF/."
    needsConversion image = true ∧ HasPng image (some (.ofString "out/")) ∧ HasPng image none := by
  intro image
  -- The extension is compared in lower case, behind the last dot.
  have converts : needsConversion image = true := by decide
  have agree := (formats_agree image).2.2 converts
  exact ⟨converts, agree.1 (.ofString "out/") (by decide), agree.2.mpr fun _ => by decide⟩

/-- An image whose name is two dots and its extension is to be converted to its folder itself. -/
theorem not_hasPng_twoDots :
    needsConversion (.ofString "..bmp") = true ∧
      pngPath (.ofString "..bmp") none = .ofString ".." ∧ ¬ HasPng (.ofString "..bmp") none := by
  refine ⟨by decide, by decide, fun ⟨folder, _, png⟩ => ?_⟩
  exact absurd png.native (by decide)

end Manuscript
