import TexListing.Listing.Record

/-!
# Conversion

A markup tree as a LaTeX listing.

* `envelope`: the fixed text around the definitions and the body.
* `convert`: the listing of a tree, and what the conversion tells.
* `convertNode`: the listing alone.
-/

namespace TexListing.Listing

open Latex Markup

/-- A listing and what its conversion tells. -/
structure Conversion where
  latex : String
  records : List Record
deriving DecidableEq, Repr

/-- The definitions of the colours and the body, in the environment. -/
def envelope (options : Options) (body : Body) : String :=
  (if options.includePreamble then environmentDefinition else "") ++ beginCode ++
    body.registry.definitions ++ body.text ++ endCode

/-- The listing of a tree, and what the conversion tells. -/
def convert (options : Options) (root : Node) : Conversion :=
  let transcript := transcribe options root
  let body := transcript.body
  ⟨envelope options body, records root transcript body⟩

/-- The listing of a tree. -/
def convertNode (options : Options) (root : Node) : String :=
  (convert options root).latex

end TexListing.Listing
