import TexListing.Listing.Body

/-!
# Records

What a conversion tells about itself.

* `Record`: what is told, `Record.level` its weight, `Record.message` the wording.
* `records`: what the conversion of a tree tells.
-/

namespace TexListing.Listing

open Markup Style

/-- The weight of a record. -/
inductive Level where
  | debug
  | trace
deriving DecidableEq, Repr

/-- Something that a conversion tells. -/
inductive Record where
  /-- The style of an element declares colours of which none can be read. -/
  | colorIgnored (ignored : Ignored)
  /-- The nodes of the tree, the bytes of the body and the colours that it uses. -/
  | converted (nodes bytes colors : Nat)
deriving DecidableEq, Repr

namespace Record

/-- The weight of a record. -/
def level : Record → Level
  | colorIgnored _ => .debug
  | converted .. => .trace

/-- The record in words. -/
def message : Record → String
  | colorIgnored ⟨tag, error⟩ => "ignoring color on <" ++ tag ++ ">: " ++ error.message
  | converted nodes bytes colors =>
    "converted " ++ toString nodes ++ " nodes into " ++ toString bytes ++ " bytes with " ++
      toString colors ++ " colors"

end Record

/-- The colours that could not be read, in document order, and then the size of the result. -/
def records (root : Node) (transcript : Transcript) (body : Body) : List Record :=
  transcript.ignored.reverse.map .colorIgnored ++
    [.converted root.count body.text.utf8ByteSize body.registry.size]

end TexListing.Listing
