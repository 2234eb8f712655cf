import Manuscript.Template.Document

/-! Documents that need no file. -/

namespace Manuscript.Library

/-- Lines as one text; each one is ended. -/
def inLines (lines : List String) : String := String.join (lines.map (· ++ "\n"))

/-- A document for short notes. -/
def basic : String :=
  inLines
    ["\\documentclass[UTF8, a4paper, 12pt]\x7bctexart\x7d",
     "",
     "\\usepackage\x7bamsmath\x7d",
     "\\usepackage\x7bamssymb\x7d",
     "\\usepackage\x7bgraphicx\x7d",
     "\\usepackage\x7bfloat\x7d",
     "\\usepackage\x7bhyperref\x7d",
     "\\usepackage\x7blistings\x7d",
     "\\usepackage\x7bxcolor\x7d",
     "",
     "\\lstset\x7b",
     "    basicstyle=\\ttfamily\\small,",
     "    breaklines=true,",
     "    frame=single,",
     "    keywordstyle=\\color\x7bblue\x7d,",
     "    commentstyle=\\color\x7bgray\x7d,",
     "    stringstyle=\\color\x7bred\x7d",
     "\x7d",
     "",
     "\\begin\x7bdocument\x7d",
     "",
     "<!-- INSERT_CONTENT -->",
     "",
     "\\end\x7bdocument\x7d"]

/-- A document for academic papers. -/
def paper : String :=
  inLines
    ["\\documentclass[UTF8, a4paper, 11pt]\x7bctexart\x7d",
     "",
     "\\usepackage[margin=2.5cm]\x7bgeometry\x7d",
     "\\usepackage\x7bamsmath\x7d",
     "\\usepackage\x7bamssymb\x7d",
     "\\usepackage\x7bamsthm\x7d",
     "\\usepackage\x7bgraphicx\x7d",
     "\\usepackage\x7bfloat\x7d",
     "\\usepackage\x7bbooktabs\x7d",
     "\\usepackage\x7blistings\x7d",
     "\\usepackage\x7bxcolor\x7d",
     "\\usepackage[numbers]\x7bnatbib\x7d",
     "\\usepackage\x7bhyperref\x7d",
     "",
     "\\hypersetup\x7b",
     "    colorlinks=true,",
     "    linkcolor=blue,",
     "    citecolor=blue,",
     "    urlcolor=blue",
     "\x7d",
     "",
     "\\lstset\x7b",
     "    basicstyle=\\ttfamily\\small,",
     "    breaklines=true,",
     "    numbers=left,",
     "    numberstyle=\\tiny\\color\x7bgray\x7d",
     "\x7d",
     "",
     "\\numberwithin\x7bequation\x7d\x7bsection\x7d",
     "",
     "\\begin\x7bdocument\x7d",
     "",
     "<!-- INSERT_CONTENT -->",
     "",
     "\\end\x7bdocument\x7d"]

/-- A document for Chinese books. -/
def chineseBook : String :=
  inLines
    ["\\documentclass[UTF8, a4paper, 12pt, openany]\x7bctexbook\x7d",
     "",
     "\\usepackage\x7bamsmath\x7d",
     "\\usepackage\x7bamssymb\x7d",
     "\\usepackage\x7bgraphicx\x7d",
     "\\usepackage\x7bfloat\x7d",
     "\\usepackage\x7blistings\x7d",
     "\\usepackage\x7bxcolor\x7d",
     "\\usepackage\x7bfancyhdr\x7d",
     "\\usepackage\x7bhyperref\x7d",
     "",
     "\\pagestyle\x7bfancy\x7d",
     "\\fancyhf\x7b\x7d",
     "\\fancyhead[C]\x7b\\leftmark\x7d",
     "\\fancyfoot[C]\x7b\\thepage\x7d",
     "",
     "\\lstset\x7b",
     "    basicstyle=\\ttfamily\\small,",
     "    breaklines=true,",
     "    frame=single",
     "\x7d",
     "",
     "\\begin\x7bdocument\x7d",
     "",
     "\\tableofcontents",
     "",
     "<!-- INSERT_CONTENT -->",
     "",
     "\\end\x7bdocument\x7d"]

/-- The name of the document that stands in for a missing one. -/
def basicName : String := "basic"

/-- The documents by their names. -/
def documents : List (String × String) :=
  [(basicName, basic), ("academic", paper), ("chinese_book", chineseBook)]

/-- The text of a document that needs no file. -/
def document? (name : String) : Option String := documents.lookup name

end Manuscript.Library
