import TexListing.Markup.Node

/-!
# Tokens

The pieces that a document is read in.

* `Tag`, `Doctype`: what a tag and a document type declaration say.
* `Token`: a piece of the document.
* `Lexing`: how the text that follows is read, which depends on what was read before.
-/

namespace TexListing.Html

open Markup

/-- A tag. -/
structure Tag where
  name : String
  attrs : List Attribute
  /-- The tag ends with a slash. -/
  selfClosing : Bool
deriving DecidableEq, Repr, Inhabited

/-- The tag without attributes and slash. -/
def Tag.plain (name : String) : Tag :=
  ⟨name, [], false⟩

/-- A document type declaration. -/
structure Doctype where
  name : Option String
  publicId : Option String
  systemId : Option String
  /-- The declaration is broken off or has something it should not have. -/
  faulty : Bool
deriving DecidableEq, Repr, Inhabited

/-- A piece of a document. -/
inductive Token where
  | doctype (declaration : Doctype)
  | startTag (tag : Tag)
  | endTag (tag : Tag)
  | comment
  /-- Characters that are all blanks. -/
  | blanks (content : String)
  /-- Characters of which none is a blank, or which stand where no blank counts. -/
  | words (content : String)
  /-- The character NUL. -/
  | nul
  /-- Something that leaves no trace but should not be there. -/
  | mistake
  /-- The end of the document. -/
  | eof
deriving DecidableEq, Repr, Inhabited

/-- How the text that follows is read. -/
inductive Lexing where
  /-- Tags, references and text. -/
  | data
  /-- References and text, until the element ends. -/
  | escapable (name : String)
  /-- Text, until the element ends. -/
  | raw (name : String)
  /-- A script, until it ends. -/
  | script
  /-- Text to the end of the document. -/
  | plaintext
deriving DecidableEq, Repr, Inhabited

end TexListing.Html
