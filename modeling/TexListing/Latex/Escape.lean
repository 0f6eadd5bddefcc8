/-!
# Escaping

Text as LaTeX shows it: the characters that have a meaning of their own are written by commands.

* `escapeChar`: the characters that show one character.
* `escape`: a whole text.
-/

namespace TexListing.Latex

/-- Three characters have a command with a name, seven follow a backslash, and the others show
themselves. -/
def escapeChar (c : Char) : List Char :=
  match c with
  | '\\' => "\\textbackslash".toList
  | '~' => "\\textasciitilde".toList
  | '^' => "\\textasciicircum".toList
  | '\x7b' | '\x7d' | '&' | '%' | '$' | '#' | '_' => ['\\', c]
  | _ => [c]

/-- The characters that show a text, each character on its own. -/
def escapeChars (s : List Char) : List Char :=
  s.flatMap escapeChar

/-- The text as LaTeX shows it. -/
def escape (s : String) : String :=
  String.ofList (escapeChars s.toList)

end TexListing.Latex
