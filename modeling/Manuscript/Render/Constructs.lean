import Manuscript.Image.Format
import Manuscript.Image.Reference
import Manuscript.Latex.Escape
import Manuscript.Latex.Headings
import Manuscript.Latex.Listing
import Manuscript.Table
import Manuscript.Template.Set
import Manuscript.Token.Basic

/-! Writing single constructs through their templates. -/

namespace Manuscript

/-- What can be chosen about the rendering of a document. -/
structure RenderOptions where
  /-- Reserved characters of running text and inline code are escaped. -/
  escape : Bool := true
  /-- The sectioning commands. -/
  headings : HeadingCommands := .standard
  /-- The rules for relative image paths. -/
  imageRules : List PathRule := []
  deriving DecidableEq

/-- What a document is rendered with. -/
structure Renderer where
  /-- What is written for a construct with its values. -/
  fill : Construct → Values → String
  /-- The choices. -/
  options : RenderOptions := {}
  /-- The depth from which on trees are written as their plain text; without one none is. -/
  depthLimit? : Option Nat := some maxDepth

namespace Renderer

/-- A renderer that writes through a set of templates. -/
def ofTemplates (templates : TemplateSet) (options : RenderOptions) : Renderer :=
  { fill := templates.fill, options }

variable (r : Renderer)

/-- A construct whose only value is a text. -/
def fillText (construct : Construct) (text : String) : String := r.fill construct [(.text, text)]

/-- Text as it is written in the output. -/
def escaped (text : String) : String := if r.options.escape then escapeText text else text

/-- Running text. -/
def text (text : String) : String := r.fillText .text (r.escaped text)

/-- Inline code. -/
def codespan (code : String) : String := r.fillText .codespan (r.escaped code)

/-- Emphasized content. -/
def emphasis (content : String) : String := r.fillText .emphasis content

/-- Strong content. -/
def strong (content : String) : String := r.fillText .strong content

/-- A link. -/
def link (content url : String) (title? : Option String) : String :=
  r.fill .link [(.url, url), (.text, content), (.title, title?.getD "")]

/-- The comment line above an image whose format cannot be included as it stands. -/
def formatNote (url : String) : String :=
  match (ImageFormat.ofPath (.ofString url)).note? with
  | some note => "% Image format note: " ++ note ++ "\n"
  | none => ""

/-- An image. -/
def image (alt url : String) (title? : Option String) : String :=
  let resolved := resolveImagePath r.options.imageRules url
  formatNote resolved ++
    r.fill .image
      [(.url, resolved), (.alt, alt), (.label, figureLabel alt), (.title, title?.getD "")]

/-- A forced line break. -/
def linebreak : String := r.fill .linebreak []

/-- A line end of the source. -/
def softbreak : String := r.fill .softbreak []

/-- A formula in running text. -/
def inlineMath (math : String) : String := r.fillText .inlineMath math

/-- A paragraph. -/
def paragraph (content : String) : String := r.fillText .paragraph content

/-- A heading. -/
def heading (content : String) (level : Nat) : String :=
  r.fill .heading [(.headingType, r.options.headings.command level), (.text, content)]

/-- The content of a tight list item. -/
def blockText (content : String) : String := r.fillText .blockText content

/-- A text without the line feed at its end. -/
def withoutLastNewline (code : String) : String :=
  match code.toList.reverse with
  | '\n' :: rest => String.ofList rest.reverse
  | _ => code

/-- A code block, as a listing when its language is known. -/
def blockCode (code : String) (info? : Option String) : String :=
  let code := withoutLastNewline code
  -- Listings need a language that they know, and plain blocks have none.
  match listingLanguage? info? with
  | some lang => r.fill .blockCodeWithLang [(.lang, lang), (.code, code)]
  | none => r.fill .blockCode [(.code, code)]

/-- A quotation. -/
def blockQuote (content : String) : String := r.fillText .blockQuote content

/-- A displayed formula. -/
def blockMath (math : String) : String := r.fillText .blockMath math

/-- A thematic break. -/
def thematicBreak : String := r.fill .thematicBreak []

/-- A blank line. -/
def blankLine : String := r.fill .blankLine []

/-- A numbered list. -/
def orderedList (items : String) : String := r.fillText .orderedList items

/-- A list with bullets. -/
def unorderedList (items : String) : String := r.fillText .unorderedList items

/-- A list of either kind. -/
def list (items : String) (ordered : Bool) : String :=
  if ordered then r.orderedList items else r.unorderedList items

/-- An item of a list. -/
def listItem (content : String) : String := r.fillText .listItem content

/-- A table with its number. -/
def tableBlock (number : Nat) (table : TableAssembly) : String :=
  r.fill .table
    [(.counter, toString number), (.alignment, table.alignmentSpec), (.header, table.headerLine),
     (.body, table.bodyLines)]

end Renderer

end Manuscript
