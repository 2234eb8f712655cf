/-! The constructs of a document that have a template, and the values that a template may use. -/

namespace Manuscript

/-- A value that a template can name. -/
inductive Placeholder where
  | text
  | url
  | alt
  | label
  | title
  | headingType
  | code
  | lang
  | counter
  | alignment
  | header
  | body
  deriving DecidableEq

namespace Placeholder

/-- Every placeholder, in the order in which they are listed. -/
def all : List Placeholder :=
  [.text, .url, .alt, .label, .title, .headingType, .code, .lang, .counter, .alignment, .header,
   .body]

/-- The name that stands between the angle brackets. -/
def name : Placeholder → String
  | .text => "text"
  | .url => "url"
  | .alt => "alt"
  | .label => "label"
  | .title => "title"
  | .headingType => "heading_type"
  | .code => "code"
  | .lang => "lang"
  | .counter => "counter"
  | .alignment => "alignment"
  | .header => "header"
  | .body => "body"

/-- The placeholder of a name. -/
def ofName? (name : String) : Option Placeholder := all.find? (·.name = name)

/-- Every placeholder is listed. -/
theorem mem_all (p : Placeholder) : p ∈ all := by cases p <;> decide

/-- A placeholder is found under its own name. -/
theorem ofName?_name (p : Placeholder) : ofName? p.name = some p := by cases p <;> decide

end Placeholder

/-- A construct of a document that is written through a template. -/
inductive Construct where
  | text
  | emphasis
  | strong
  | link
  | image
  | codespan
  | linebreak
  | softbreak
  | inlineMath
  | paragraph
  | heading
  | blockText
  | blockCode
  | blockCodeWithLang
  | blockQuote
  | blockMath
  | thematicBreak
  | blankLine
  | listItem
  | orderedList
  | unorderedList
  | table
  deriving DecidableEq

namespace Construct

/-- Every construct, in the order in which they are listed. -/
def all : List Construct :=
  [.text, .emphasis, .strong, .link, .image, .codespan, .linebreak, .softbreak, .inlineMath,
   .paragraph, .heading, .blockText, .blockCode, .blockCodeWithLang, .blockQuote, .blockMath,
   .thematicBreak, .blankLine, .listItem, .orderedList, .unorderedList, .table]

/-- The key of a construct in a configuration. -/
def key : Construct → String
  | .text => "text"
  | .emphasis => "emphasis"
  | .strong => "strong"
  | .link => "link"
  | .image => "image"
  | .codespan => "codespan"
  | .linebreak => "linebreak"
  | .softbreak => "softbreak"
  | .inlineMath => "inline_math"
  | .paragraph => "paragraph"
  | .heading => "heading"
  | .blockText => "block_text"
  | .blockCode => "block_code"
  | .blockCodeWithLang => "block_code_with_lang"
  | .blockQuote => "block_quote"
  | .blockMath => "block_math"
  | .thematicBreak => "thematic_break"
  | .blankLine => "blank_line"
  | .listItem => "list_item"
  | .orderedList => "ordered_list"
  | .unorderedList => "unordered_list"
  | .table => "table"

/-- The construct of a key. -/
def ofKey? (key : String) : Option Construct := all.find? (·.key = key)

/-- The placeholders that the template of a construct may use. -/
def placeholders : Construct → List Placeholder
  | .heading => [.headingType, .text]
  | .link => [.url, .text, .title]
  | .image => [.url, .alt, .label, .title]
  | .blockCode => [.code]
  | .blockCodeWithLang => [.lang, .code]
  | .table => [.counter, .alignment, .header, .body]
  | .linebreak | .softbreak | .thematicBreak | .blankLine => []
  | _ => [.text]

/-- The template of a construct may use a placeholder. -/
def accepts (construct : Construct) (placeholder : Placeholder) : Bool :=
  construct.placeholders.contains placeholder

/-- Every construct is listed. -/
theorem mem_all (c : Construct) : c ∈ all := by cases c <;> decide

/-- A construct is found under its own key. -/
theorem ofKey?_key (c : Construct) : ofKey? c.key = some c := by cases c <;> decide

end Construct

end Manuscript
