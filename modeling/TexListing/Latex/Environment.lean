/-!
# The environment of a listing

The fixed text around a listing.

* `lineBreak`: the end of a line.
* `environmentDefinition`: the definition of the environment, in which spaces keep their width.
* `beginCode`, `endCode`: the lines that open and close the environment.
-/

namespace TexListing.Latex

/-- The end of a line. -/
def lineBreak : String :=
  "\\\\\n"

/-- The definition of the environment, in which spaces keep their width. -/
def environmentDefinition : String :=
  "\\newsavebox\\spacewd\n" ++
  "\\savebox\\spacewd\x7b\\texttt\x7b \x7d\x7d\n" ++
  "\\newenvironment\x7bcode\x7d\x7b\\par\\catcode32=\\active " ++
    "\\setlength\x7b\\parindent\x7d\x7b0pt\x7d\\ttfamily\x7d\x7b\\par\x7d\n" ++
  "\x7b\n" ++
  "\\catcode32=\\active %\n" ++
  "\\gdef \x7b\\makebox[\\wd\\spacewd][l]\x7b%\n" ++
  "\\phantom\x7b\\textcolor\x7bwhite\x7d\x7b\\fontfamily\x7blmtt\x7d\\selectfont\\large" ++
    "\\smash\x7b\\char32\x7d\x7d\x7d\x7d\x7d%\n" ++
  "\x7d\n"

/-- The line that opens the environment. -/
def beginCode : String :=
  "\\begin\x7bcode\x7d\n"

/-- The line that closes the environment. -/
def endCode : String :=
  "\n\\end\x7bcode\x7d"

end TexListing.Latex
