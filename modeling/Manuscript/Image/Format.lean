import Manuscript.Path

/-! Formats of image files: what can be included as it stands, and what is said of the others. -/

namespace Manuscript

/-- A text with its ASCII capitals in lower case. -/
def lowerAsciiChars (text : List Char) : List Char := text.map Char.toLower

/-- The raster formats that have to be converted first. -/
inductive RasterFormat where
  | bmp
  | tiff
  | gif
  | webp
  deriving DecidableEq

/-- The name of a raster format as it is printed. -/
def RasterFormat.name : RasterFormat → String
  | .bmp => "BMP"
  | .tiff => "TIFF"
  | .gif => "GIF"
  | .webp => "WebP"

/-- How an image file can be used. -/
inductive ImageFormat where
  /-- Included as it stands. -/
  | native
  /-- Known, but it has to be converted. -/
  | raster (format : RasterFormat)
  /-- Not known, or without an extension. -/
  | unknown (extension : List Char)
  deriving DecidableEq

/-- The extension of a path in lower case, empty when there is none. -/
def lowerExtension (path : Path) : List Char := lowerAsciiChars (path.extension?.getD [])

/-- The format that the extension of a path tells. -/
def ImageFormat.ofPath (path : Path) : ImageFormat :=
  let extension := lowerExtension path
  if ["pdf", "png", "jpg", "jpeg"].any (·.toList = extension) then .native
  else if extension = "bmp".toList then .raster .bmp
  -- Both spellings are one format.
  else if ["tiff", "tif"].any (·.toList = extension) then .raster .tiff
  else if extension = "gif".toList then .raster .gif
  else if extension = "webp".toList then .raster .webp
  else .unknown extension

/-- What is said about a format that cannot be included as it stands. -/
def ImageFormat.note? : ImageFormat → Option String
  | .native => none
  | .raster format => some (format.name ++ " images may need to be converted to PNG")
  | .unknown [] => some "image has no file extension, use PNG or JPEG"
  | .unknown extension =>
    some ("unknown image format ." ++ String.ofList extension ++ ", use PNG or JPEG")

/-- The extensions of images that are converted to PNG. -/
def convertibleExtensions : List String :=
  ["bmp", "tiff", "tif", "gif", "webp", "svg", "ico", "psd", "raw"]

/-- An image that is converted to PNG before it is included. -/
def needsConversion (path : Path) : Bool :=
  convertibleExtensions.any (·.toList = lowerExtension path)

/-- Where the PNG of an image is written: beside the image, or into a directory. -/
def pngPath (image : Path) (outputDir? : Option Path) : Path :=
  match outputDir? with
  | none => image.withExtension "png".toList
  | some dir => dir.withStemIn image "png".toList

end Manuscript
