import TexListing.Color.Registry
import TexListing.Latex.Environment
import TexListing.Latex.Escape
import TexListing.Listing.Transcript

/-!
# The body of a listing

The pieces of a transcript as LaTeX.

* `Body`: the text so far and the colours it uses.
* `Body.ofPieces`, `Transcript.body`: the body of a list of pieces, and of a transcript.
-/

namespace TexListing.Listing

open Latex

/-- The text so far and the colours that it uses. -/
structure Body where
  registry : Registry
  text : String
deriving DecidableEq, Repr

namespace Body

/-- Nothing has been written. -/
def empty : Body := ⟨.empty, ""⟩

/-- A run in a colour goes by the name of the colour. -/
def colored (name content : String) : String :=
  "\\textcolor\x7b" ++ name ++ "\x7d\x7b" ++ escape content ++ "\x7d"

/-- The body with one more piece. -/
def add (body : Body) : Piece → Body
  | .lineBreak => ⟨body.registry, body.text ++ lineBreak⟩
  | .run content none => ⟨body.registry, body.text ++ escape content⟩
  | .run content (some color) =>
    let (name, registry) := body.registry.nameFor color
    ⟨registry, body.text ++ colored name content⟩

/-- The body of pieces in document order. -/
def ofPieces (pieces : List Piece) : Body :=
  pieces.foldl add empty

theorem ofPieces_concat (pieces : List Piece) (piece : Piece) :
    ofPieces (pieces ++ [piece]) = (ofPieces pieces).add piece := by
  simp [ofPieces]

end Body

/-- The body of everything that has been read. -/
def Transcript.body (t : Transcript) : Body :=
  .ofPieces t.pieces.reverse

end TexListing.Listing
