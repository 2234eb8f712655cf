import Manuscript.Template.Basic

/-! The template that each construct has when no configuration says otherwise. -/

namespace Manuscript

/-- The text of the template that a construct starts with. -/
def Construct.defaultTemplate : Construct → String
  | .text => "<text>"
  | .emphasis => "\\emph\x7b<text>\x7d"
  | .strong => "\\textbf\x7b<text>\x7d"
  | .link => "\\href\x7b<url>\x7d\x7b<text>\x7d"
  | .image =>
    "\n\\begin\x7bfigure\x7d[H]\n    \\centering\n" ++
    "    \\includegraphics[width=0.8\\textwidth]\x7b<url>\x7d\n" ++
    "    \\caption\x7b<alt>\x7d\n    \\label\x7bfig:<label>\x7d\n\\end\x7bfigure\x7d"
  | .codespan => "\\texttt\x7b<text>\x7d"
  | .linebreak => "\\\\"
  | .softbreak => " "
  | .inlineMath => "$<text>$"
  | .paragraph => "\n<text>\n"
  | .heading => "\\<heading_type>\x7b<text>\x7d"
  | .blockText => "<text>"
  | .blockCode => "\n\\begin\x7bverbatim\x7d\n<code>\n\\end\x7bverbatim\x7d"
  | .blockCodeWithLang =>
    "\n\\begin\x7blstlisting\x7d[language=<lang>]\n<code>\n\\end\x7blstlisting\x7d"
  | .blockQuote => "\n\\begin\x7bquote\x7d\n<text>\n\\end\x7bquote\x7d"
  | .blockMath => "\n\\begin\x7bequation\x7d\n<text>\n\\end\x7bequation\x7d"
  | .thematicBreak => "\\noindent\\rule\x7b\\textwidth\x7d\x7b1pt\x7d"
  | .blankLine => "\n"
  | .listItem => "\\item <text>"
  | .orderedList => "\n\\begin\x7benumerate\x7d\n<text>\n\\end\x7benumerate\x7d"
  | .unorderedList => "\n\\begin\x7bitemize\x7d\n<text>\n\\end\x7bitemize\x7d"
  | .table =>
    "\n\\begin\x7btable\x7d[H]\n    \\centering\n    \\caption\x7bTable <counter>\x7d\n" ++
    "    \\label\x7btab:table<counter>\x7d\n" ++
    "    \\begin\x7btabular\x7d\x7b<alignment>\x7d\n        \\hline\n        <header>\n" ++
    "        \\hline\n        <body>\n        \\hline\n    \\end\x7btabular\x7d\n" ++
    "\\end\x7btable\x7d"

/-- The template that a construct starts with. -/
def Template.builtin (construct : Construct) : Template :=
  match parse construct construct.defaultTemplate with
  | .ok template => template
  | .error _ => ⟨[.literal construct.defaultTemplate.toList]⟩

end Manuscript
