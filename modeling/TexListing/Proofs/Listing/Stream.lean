import TexListing.Proofs.Listing.Sheet

/-!
# The stream of a listing

What a listing shows is a stream of line breaks and of characters, each in its exact colour or in
none. It can be told from the tree, and it can be told from the listing alone. Both give the same
stream, so no text of a tree can pass for anything but itself.

* `stream`: the stream of a tree, node by node in document order.
* `decode`: the stream of a listing, and whether the listing defines its environment.
* `stream_eq`: the stream of a tree is the one of its pieces.
* `decode_convertNode`: a listing has the stream of its tree.
-/

namespace TexListing.Listing

open Markup

/-- A part of a stream. -/
inductive Event where
  | lineBreak
  /-- A character in a colour, or in none. -/
  | glyph (c : Char) (color : Option Rgb)
deriving DecidableEq, Repr

/-! ## The stream of a tree -/

/-- The stream after one more node, given the elements around it. Within a line break nothing is
shown. A text shows its characters in the colour of the nearest element that has one. A line break
ends a line, and so does an element that starts a new line unless nothing has been shown. -/
def observe (options : Options) (events : List Event) : Node × List Node → List Event
  | (.text content, around) =>
    if Hidden around then events
    else events ++ content.toList.map (.glyph · (nearestColor? options around))
  | (.element tag _ _, around) =>
    if Hidden around then events
    else if endsLine tag = true ∨ (startsLine options tag = true ∧ events ≠ []) then
      events ++ [.lineBreak]
    else events

/-- The stream of a tree: its nodes are observed in document order. -/
def stream (options : Options) (root : Node) : List Event :=
  (root.occurrences []).foldl (observe options) []

/-- What a piece shows. -/
def Piece.events : Piece → List Event
  | .lineBreak => [.lineBreak]
  | .run content color => content.toList.map (.glyph · color)

/-- Pieces show nothing only if there are none. -/
theorem events_eq_nil {pieces : List Piece} (h : Solid pieces) :
    pieces.flatMap Piece.events = [] ↔ pieces = [] := by
  rcases pieces with - | ⟨- | ⟨content, color⟩, rest⟩
  · simp
  · simp [Piece.events]
  · have hne := solid_run.1 (solid_cons.1 h).1
    simp [Piece.events, hne]

/-- **One more node** adds the same to the stream of the pieces as to the pieces. -/
theorem place_events {options : Options} {pieces : List Piece} (h : Solid pieces)
    (occurrence : Node × List Node) :
    (place options pieces occurrence).flatMap Piece.events =
      observe options (pieces.flatMap Piece.events) occurrence := by
  have hempty := not_congr (events_eq_nil h)
  obtain ⟨⟨tag, attrs, children⟩ | content, around⟩ := occurrence <;> rw [place, observe]
  · simp only [ne_eq, hempty]
    split
    · rfl
    · split
      · rw [List.flatMap_append]; rfl
      · rfl
  · by_cases hh : Hidden around
    · rw [if_pos (.inl hh), if_pos hh]
    · by_cases hc : content = ""
      · rw [if_pos (.inr hc), if_neg hh, hc]; simp
      · rw [if_neg (not_or.2 ⟨hh, hc⟩), if_neg hh, List.flatMap_append, List.flatMap_singleton]
        rfl

/-- **The stream of a tree is the one of its pieces.** -/
theorem stream_eq (options : Options) (root : Node) :
    stream options root = (piecesOf options root).flatMap Piece.events := by
  rw [piecesOf_eq]
  exact (foldl_in_step (P := Solid) (h := fun pieces => pieces.flatMap Piece.events) _
    (fun occurrence _ pieces h => h.place occurrence)
    (fun occurrence _ pieces h => place_events h occurrence) [] solid_empty).symm

/-! ## The stream of a listing -/

/-- What an item shows, if its colour is defined. -/
def Item.events? (definitions : List (List Char × Rgb)) : Item → Option (List Event)
  | .lineBreak => some [.lineBreak]
  | .glyph c => some [.glyph c none]
  | .group name content =>
    (definitions.lookup name).map fun color => content.map (.glyph · (some color))

/-- What items show, if all their colours are defined. -/
def eventsOf? (definitions : List (List Char × Rgb)) : List Item → Option (List Event)
  | [] => some []
  | item :: rest =>
    (item.events? definitions).bind fun events =>
      (eventsOf? definitions rest).map (events ++ ·)

/-- Whether a listing defines its environment, and the stream that it shows. -/
def decode (listing : String) : Option (Bool × List Event) :=
  (readSheet? listing.toList).bind fun sheet =>
    (eventsOf? sheet.definitions sheet.items).map (sheet.preamble, ·)

/-- Each name is looked up as its own colour, if no two colours share one. -/
theorem lookup_names {names : Rgb → String} {color : Rgb} {colors : List Rgb}
    (hc : color ∈ colors) (hnames : ∀ c ∈ colors, names c = names color → c = color) :
    (colors.map fun c => ((names c).toList, c)).lookup (names color).toList = some color := by
  induction colors with
  | nil => simp at hc
  | cons c rest ih =>
    rw [List.map_cons, List.lookup_cons]
    by_cases hn : names c = names color
    · rw [hn, hnames c (by simp) hn]; simp
    · have hne : ((names color).toList == (names c).toList) = false := by
        simpa [String.toList_inj] using Ne.symm hn
      have hcr : color ∈ rest := (List.mem_cons.1 hc).resolve_left fun he => hn (he ▸ rfl)
      rw [hne]
      exact ih hcr fun d hd => hnames d (by simp [hd])

theorem eventsOf?_glyphs (definitions : List (List Char × Rgb)) (s : List Char)
    (rest : List Item) :
    eventsOf? definitions (s.map .glyph ++ rest) =
      (eventsOf? definitions rest).map (s.map (.glyph · none) ++ ·) := by
  induction s with
  | nil => simp
  | cons c s ih =>
    rw [List.map_cons, List.cons_append, eventsOf?, Item.events?, Option.bind_some, ih,
      Option.map_map]
    rfl

/-- **The items of a piece show what the piece shows**, if its colour is defined. -/
theorem eventsOf?_piece {definitions : List (List Char × Rgb)} {names : Rgb → String}
    {piece : Piece}
    (h : ∀ color, piece.color? = some color →
      definitions.lookup (names color).toList = some color) (rest : List Item) :
    eventsOf? definitions (piece.items names ++ rest) =
      (eventsOf? definitions rest).map (piece.events ++ ·) := by
  rcases piece with - | ⟨content, - | color⟩
  · rfl
  · exact eventsOf?_glyphs definitions content.toList rest
  · rw [Piece.items, List.singleton_append, eventsOf?, Item.events?, h color rfl]
    rfl

theorem eventsOf?_pieces {definitions : List (List Char × Rgb)} {names : Rgb → String}
    (pieces : List Piece)
    (h : ∀ color ∈ pieces.filterMap Piece.color?,
      definitions.lookup (names color).toList = some color) :
    eventsOf? definitions (pieces.flatMap (Piece.items names)) =
      some (pieces.flatMap Piece.events) := by
  induction pieces with
  | nil => rfl
  | cons piece rest ih =>
    have hpiece : ∀ color, piece.color? = some color →
        definitions.lookup (names color).toList = some color :=
      fun color hc => h color (List.mem_filterMap.2 ⟨piece, by simp, hc⟩)
    have hrest := ih fun color hc => by
      obtain ⟨other, ho, hoc⟩ := List.mem_filterMap.1 hc
      exact h color (List.mem_filterMap.2 ⟨other, by simp [ho], hoc⟩)
    rw [List.flatMap_cons, List.flatMap_cons, eventsOf?_piece hpiece, hrest, Option.map_some]

/-- The names among the colours of pieces are looked up as those colours. -/
theorem lookup_colorsOf {pieces : List Piece} {color : Rgb}
    (hc : color ∈ pieces.filterMap Piece.color?) :
    ((colorsOf pieces).map fun c => ((nameAmong (colorsOf pieces) c).toList, c)).lookup
      (nameAmong (colorsOf pieces) color).toList = some color :=
  lookup_names (List.mem_eraseDups.2 hc) fun _ hd hn => nameAmong_inj hd hn

theorem eventsOf?_sheetOf (preamble : Bool) (pieces : List Piece) :
    eventsOf? (sheetOf preamble pieces).definitions (sheetOf preamble pieces).items =
      some (pieces.flatMap Piece.events) :=
  eventsOf?_pieces pieces fun _ hc => lookup_colorsOf hc

/-- **A listing has the stream of its tree**, for every tree and all options: it is decoded without
fail, as whether the environment is to be defined and as the stream, every character in its exact
colour. So trees of which one could pass for the other have the same stream. -/
theorem decode_convertNode :
    (∀ options root,
      decode (convertNode options root) = some (options.includePreamble, stream options root)) ∧
    ∀ options root options' root', convertNode options root = convertNode options' root' →
      options.includePreamble = options'.includePreamble ∧
        stream options root = stream options' root' := by
  have hdecode : ∀ options root,
      decode (convertNode options root) = some (options.includePreamble, stream options root) := by
    intro options root
    rw [decode, readSheet?_convertNode, Option.bind_some, eventsOf?_sheetOf, stream_eq]
    rfl
  -- a text is decoded in one way only
  refine ⟨hdecode, fun options root options' root' h => ?_⟩
  have hsame := hdecode options root
  rw [h, hdecode options' root', Option.some.injEq, Prod.mk.injEq] at hsame
  exact ⟨hsame.1.symm, hsame.2.symm⟩

end TexListing.Listing
