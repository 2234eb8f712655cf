import Manuscript.Image.Format
import Manuscript.Task

/-! The programs that convert images to PNG, and how each one is called. -/

namespace Manuscript

/-- A program that converts images. -/
inductive ImageTool where
  /-- For SVG only. -/
  | rsvg
  | imageMagick
  | sips
  deriving DecidableEq

namespace ImageTool

/-- All tools, those first that are preferred. -/
def all : List ImageTool := [.rsvg, .imageMagick, .sips]

/-- What messages call a tool. -/
def name : ImageTool → String
  | .rsvg => "rsvg-convert"
  | .imageMagick => "imagemagick"
  | .sips => "sips"

/-- The names that the program of a tool may have. -/
def programs : ImageTool → List String
  | .rsvg => ["rsvg-convert"]
  | .imageMagick => ["magick", "convert"]
  | .sips => ["sips"]

/-- A tool converts images with an extension. -/
def handles (tool : ImageTool) (extension : List Char) : Bool :=
  match tool with
  | .rsvg => extension = "svg".toList
  | .imageMagick | .sips => true

/-- What is passed to a tool; images are made no larger than fits on a page. -/
def arguments (tool : ImageTool) (input output : Path) : List String :=
  match tool with
  | .rsvg => ["-f", "png", "-w", "1024", "-h", "1024", input.text, "-o", output.text]
  | .imageMagick => [input.text, "-quality", "90", "-resize", "2048x2048>", output.text]
  | .sips => ["-s", "format", "png", "-Z", "2048", input.text, "--out", output.text]

end ImageTool

end Manuscript
