import TexListing.Listing.Options
import TexListing.Markup.Node

/-!
# Transcripts

What a markup tree comes to when it is read in document order: line breaks and runs of text, each
run in the colour of the nearest element around it that has one.

* `Piece`: a line break or a run.
* `Transcript`: the pieces so far, and the colours that could not be read.
* `transcribe`: the transcript of a tree.
-/

namespace TexListing.Listing

open Markup Style

/-- A piece of a listing. -/
inductive Piece where
  /-- The end of a line. -/
  | lineBreak
  /-- Characters in one colour, or in none. -/
  | run (content : String) (color : Option Rgb)
deriving DecidableEq, Repr

/-- A tag whose style declares colours of which none can be read, and what is wrong with them. -/
structure Ignored where
  tag : String
  error : ColorError
deriving DecidableEq, Repr

/-- What has been read so far, the latest first. -/
structure Transcript where
  pieces : List Piece
  ignored : List Ignored
deriving DecidableEq, Repr

namespace Transcript

/-- Nothing has been read. -/
def empty : Transcript := ⟨[], []⟩

/-- The line ends here. -/
def endLine (t : Transcript) : Transcript :=
  { t with pieces := .lineBreak :: t.pieces }

/-- A new line starts here, unless nothing stands before it. -/
def startLine (t : Transcript) : Transcript :=
  if t.pieces.isEmpty then t else t.endLine

/-- More characters. No characters leave no piece. -/
def write (t : Transcript) (content : String) (color : Option Rgb) : Transcript :=
  if content.isEmpty then t else { t with pieces := .run content color :: t.pieces }

/-- A colour could not be read. -/
def ignore (t : Transcript) (tag : String) (error : ColorError) : Transcript :=
  { t with ignored := ⟨tag, error⟩ :: t.ignored }

end Transcript

/-- What the style of an element says about its colour. -/
def ownColor? (options : Options) (node : Node) : Option (Except ColorError Rgb) :=
  (node.attr? "style").bind (styleColor? options.colorSyntax)

/-- The colour that the children of an element inherit, given the one around the element. -/
def innerColor (own : Option (Except ColorError Rgb)) (outer : Option Rgb) : Option Rgb :=
  match own with
  | some (.ok color) => some color
  | _ => outer

/-- The transcript at the start of the children of an element that is no line break. -/
def Transcript.enter (t : Transcript) (kind : TagKind) (tag : String)
    (own : Option (Except ColorError Rgb)) : Transcript :=
  let t := if kind = .block then t.startLine else t
  match own with
  | some (.error e) => t.ignore tag e
  | _ => t

/-- The trees, each with the same colour around it. -/
def within (color : Option Rgb) (nodes : List Node) : List (Node × Option Rgb) :=
  nodes.map (·, color)

@[simp] theorem map_fst_within (color : Option Rgb) (nodes : List Node) :
    (within color nodes).map Prod.fst = nodes := by
  simp [within, Function.comp_def]

/-- Reads the pending trees in document order, each with the colour around it. An element gives way
to its children; a line break has none to be read. -/
def transcribeFrom (options : Options) (t : Transcript) : List (Node × Option Rgb) → Transcript
  | [] => t
  | (.text content, color) :: pending => transcribeFrom options (t.write content color) pending
  | (.element tag attrs children, color) :: pending =>
    let kind := classify options.blockTags tag
    if kind = .lineBreak then transcribeFrom options t.endLine pending
    else
      let own := ownColor? options (.element tag attrs children)
      transcribeFrom options (t.enter kind tag own)
        (within (innerColor own color) children ++ pending)
termination_by pending => Node.size.sizeAll (pending.map Prod.fst)
decreasing_by
  all_goals
    simp only [List.map_append, map_fst_within, List.map_cons, Node.sizeAll_append,
      Node.size.sizeAll, Node.size]
    omega

/-- The transcript of a tree around which there is no colour. -/
def transcribe (options : Options) (root : Node) : Transcript :=
  transcribeFrom options .empty [(root, none)]

end TexListing.Listing
