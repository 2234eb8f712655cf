import Manuscript.Template.Set

/-! Configurations that need no file. -/

namespace Manuscript.Library

/-- The configuration that the others are laid over. -/
def plain : ConfigMap :=
  [("text", "<text>"),
   ("emphasis", "\\emph\x7b<text>\x7d"),
   ("strong", "\\textbf\x7b<text>\x7d"),
   ("link", "\\href\x7b<url>\x7d\x7b<text>\x7d"),
   ("image",
    "\n\\begin\x7bfigure\x7d[H]\n    \\centering\n" ++
    "    \\includegraphics[width=0.8\\textwidth]\x7b<url>\x7d\n" ++
    "    \\caption\x7b<alt>\x7d\n    \\label\x7bfig:<label>\x7d\n\\end\x7bfigure\x7d"),
   ("codespan", "\\texttt\x7b<text>\x7d"),
   ("linebreak", "\\\\"),
   ("softbreak", " "),
   ("inline_math", "$<text>$"),
   ("paragraph", "\n<text>\n"),
   ("heading", "\n\\<heading_type>\x7b<text>\x7d"),
   ("block_text", "<text>"),
   ("block_code", "\n\\begin\x7bverbatim\x7d\n<code>\n\\end\x7bverbatim\x7d"),
   ("block_code_with_lang",
    "\n\\begin\x7blstlisting\x7d[language=<lang>]\n<code>\n\\end\x7blstlisting\x7d"),
   ("block_quote", "\n\\begin\x7bquote\x7d\n<text>\n\\end\x7bquote\x7d"),
   ("block_math", "\n\\begin\x7bequation\x7d\n<text>\n\\end\x7bequation\x7d"),
   ("thematic_break", "\\noindent\\rule\x7b\\textwidth\x7d\x7b1pt\x7d"),
   ("blank_line", "\n"),
   ("list_item", "\\item <text>"),
   ("ordered_list", "\n\\begin\x7benumerate\x7d\n<text>\n\\end\x7benumerate\x7d"),
   ("unordered_list", "\n\\begin\x7bitemize\x7d\n<text>\n\\end\x7bitemize\x7d"),
   ("table",
    "\n\\begin\x7btable\x7d[H]\n    \\centering\n    \\caption\x7bTable <counter>\x7d\n" ++
    "    \\label\x7btab:table<counter>\x7d\n" ++
    "    \\begin\x7btabular\x7d\x7b<alignment>\x7d\n        \\hline\n        <header>\n" ++
    "        \\hline\n        <body>\n        \\hline\n    \\end\x7btabular\x7d\n" ++
    "\\end\x7btable\x7d")]

/-- What differs for Chinese documents: captions of tables, and quotes in another hand. -/
def chinese : ConfigMap :=
  [("block_quote", "\n\\begin\x7bquote\x7d\n\\kaishu <text>\n\\end\x7bquote\x7d"),
   ("table",
    "\n\\begin\x7btable\x7d[H]\n    \\centering\n    \\caption\x7b表格 <counter>\x7d\n" ++
    "    \\label\x7btab:table<counter>\x7d\n" ++
    "    \\begin\x7btabular\x7d\x7b<alignment>\x7d\n        \\hline\n        <header>\n" ++
    "        \\hline\n        <body>\n        \\hline\n    \\end\x7btabular\x7d\n" ++
    "\\end\x7btable\x7d"),
   ("link", "\\href\x7b<url>\x7d\x7b<text>\x7d\\footnote\x7b\\url\x7b<url>\x7d\x7d")]

/-- What differs for academic papers: links with footnotes, framed listings and numbered figures. -/
def academic : ConfigMap :=
  [("heading", "\n\\<heading_type>\x7b<text>\x7d\n"),
   ("emphasis", "\\textit\x7b<text>\x7d"),
   ("link", "\\href\x7b<url>\x7d\x7b<text>\x7d\\footnote\x7b\\url\x7b<url>\x7d\x7d"),
   ("image",
    "\n\\begin\x7bfigure\x7d[htbp]\n    \\centering\n" ++
    "    \\includegraphics[width=0.7\\textwidth]\x7b<url>\x7d\n" ++
    "    \\caption\x7b<alt>\x7d\n    \\label\x7bfig:<label>\x7d\n\\end\x7bfigure\x7d"),
   ("block_code_with_lang",
    "\n" ++
    "\\begin\x7blstlisting\x7d[language=<lang>, frame=single, basicstyle=\\small\\ttfamily]\n" ++
    "<code>\n\\end\x7blstlisting\x7d"),
   ("block_quote", "\n\\begin\x7bquotation\x7d\n<text>\n\\end\x7bquotation\x7d"),
   ("block_math", "\n\\begin\x7bequation\x7d\n<text>\n\\end\x7bequation\x7d\n"),
   ("table",
    "\n\\begin\x7btable\x7d[htbp]\n    \\centering\n    \\caption\x7bTable <counter>\x7d\n" ++
    "    \\label\x7btab:table<counter>\x7d\n" ++
    "    \\begin\x7btabular\x7d\x7b<alignment>\x7d\n        \\hline\n        <header>\n" ++
    "        \\hline\n        <body>\n        \\hline\n    \\end\x7btabular\x7d\n" ++
    "\\end\x7btable\x7d")]

/-- The name of the configuration that the others are laid over. -/
def plainName : String := "default"

/-- The configurations by their names. -/
def configs : List (String × ConfigMap) :=
  [(plainName, plain), ("chinese", chinese), ("academic", academic)]

/-- A configuration that needs no file. -/
def config? (name : String) : Option ConfigMap := configs.lookup name

end Manuscript.Library
