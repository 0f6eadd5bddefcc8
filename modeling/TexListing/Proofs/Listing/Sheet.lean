import TexListing.Proofs.Listing.DocumentOrder
import TexListing.Proofs.Listing.ReadBack

/-!
# What a listing holds

A listing is read as what its tree comes to: the colours of the pieces of the tree, each under its
name, and then what the pieces show.

* `ofPieces_eq`: the body of pieces. A colour has the same name in each of them.
* `readItems?_pieces`: the body is read as what the pieces show.
* `readSheet?_envelope`: the envelope comes off, with the definitions.
* `sheetOf`: what the listing of pieces holds.
* `readSheet?_convertNode`: what is read from the listing of a tree is that, for every tree.
-/

namespace TexListing.Listing

open Latex Markup

/-! ## Pieces -/

/-- The colour of a piece. -/
def Piece.color? : Piece → Option Rgb
  | .lineBreak => none
  | .run _ color => color

/-- The characters of a piece, with the names that colours go by. -/
def Piece.chars (names : Rgb → String) : Piece → List Char
  | .lineBreak => Latex.lineBreak.toList
  | .run content none => escapeChars content.toList
  | .run content (some color) => (Body.colored (names color) content).toList

/-- What a piece shows, with the names that colours go by. -/
def Piece.items (names : Rgb → String) : Piece → List Item
  | .lineBreak => [.lineBreak]
  | .run content none => content.toList.map .glyph
  | .run content (some color) => [.group (names color).toList content.toList]

theorem readItems?_piece {names : Rgb → String} (h : ∀ color, '\x7d' ∉ (names color).toList)
    (piece : Piece) (rest : List Char) :
    readItems? (piece.chars names ++ rest) =
      (readItems? rest).map (piece.items names ++ ·) := by
  rcases piece with - | ⟨content, - | color⟩
  · exact readItems?_of_readItem? (readItem?_lineBreak rest)
  · exact readItems?_escapeChars content.toList rest
  · exact readItems?_of_readItem? (readItem?_colored (h color) content rest)

/-- **The characters of pieces are read as what they show.** -/
theorem readItems?_pieces {names : Rgb → String} (h : ∀ color, '\x7d' ∉ (names color).toList)
    (pieces : List Piece) :
    readItems? (pieces.flatMap (Piece.chars names)) =
      some (pieces.flatMap (Piece.items names)) := by
  induction pieces with
  | nil => rw [List.flatMap_nil, readItems?]; rfl
  | cons piece rest ih =>
    rw [List.flatMap_cons, List.flatMap_cons, readItems?_piece h, ih, Option.map_some]

/-- No piece starts a definition. -/
theorem chars_starts (names : Rgb → String) {piece : Piece} (h : Solid [piece]) (rest : List Char) :
    definitionStart.isPrefixOf? (piece.chars names ++ rest) = none := by
  rcases piece with - | ⟨content, - | color⟩
  · rw [Piece.chars, toList_lineBreak, definitionStart_eq]; simp [List.isPrefixOf?]
  · have hne : content.toList ≠ [] := mt String.toList_eq_nil_iff.1 (solid_run.1 h)
    obtain ⟨c, others, hc⟩ := List.exists_cons_of_ne_nil hne
    rw [Piece.chars, hc, escapeChars, List.flatMap_cons, List.append_assoc]
    exact (escapeChar_starts c _).2.2.1
  · rw [Piece.chars, toList_colored, List.append_assoc]
    exact (groupStart_starts _).2

/-! ## Bodies -/

/-- The colours of pieces, in the order of their first use. -/
def colorsOf (pieces : List Piece) : List Rgb :=
  (pieces.filterMap Piece.color?).eraseDups

theorem chars_congr {names names' : Rgb → String} {pieces : List Piece}
    (h : ∀ color ∈ pieces.filterMap Piece.color?, names color = names' color) :
    pieces.flatMap (Piece.chars names) = pieces.flatMap (Piece.chars names') := by
  apply List.flatMap_congr
  rintro (- | ⟨content, - | color⟩) hp
  · rfl
  · rfl
  · rw [Piece.chars, Piece.chars, h color (List.mem_filterMap.2 ⟨_, hp, rfl⟩)]

/-- **The body of pieces**: the registry has been asked for the colour of each, and every colour
goes by the name that it has among the colours of all pieces. -/
theorem ofPieces_eq (pieces : List Piece) :
    (Body.ofPieces pieces).registry = Registry.asked (pieces.filterMap Piece.color?) ∧
      (Body.ofPieces pieces).text.toList =
        pieces.flatMap (Piece.chars (nameAmong (colorsOf pieces))) := by
  induction pieces using List.reverseRecOn with
  | nil => exact ⟨rfl, rfl⟩
  | append_singleton pieces piece ih =>
    obtain ⟨hreg, htext⟩ := ih
    -- the names in the text so far were given before this piece, and they stay
    have hchars : pieces.flatMap (Piece.chars (nameAmong (colorsOf (pieces ++ [piece])))) =
        pieces.flatMap (Piece.chars (nameAmong (colorsOf pieces))) := by
      refine chars_congr fun color hc => ?_
      rw [colorsOf, List.filterMap_append]
      exact nameAmong_append hc _
    rw [Body.ofPieces_concat, List.flatMap_append, hchars, ← htext, List.filterMap_append]
    rcases piece with - | ⟨content, - | color⟩
    · have hnone : [Piece.lineBreak].filterMap Piece.color? = [] := rfl
      simp [Body.add, Piece.chars, hreg, hnone]
    · have hnone : [Piece.run content none].filterMap Piece.color? = [] := rfl
      simp [Body.add, Piece.chars, hreg, hnone, escape]
    · have hnames : colorsOf (pieces ++ [.run content (some color)]) =
          (pieces.filterMap Piece.color? ++ [color]).eraseDups := by
        rw [colorsOf, List.filterMap_append]; rfl
      rw [Body.add, hreg, nameFor_asked, hnames]
      exact ⟨rfl, by simp [Piece.chars]⟩

/-! ## Listings -/

theorem readSheet?_of_definition (rest : List Char) :
    readSheet? (environmentDefinition.toList ++ rest) = readEnvironment? true rest := by
  rw [readSheet?, isPrefixOf?_append, Option.elim_some]

theorem environmentDefinition_starts :
    ∃ rest, environmentDefinition.toList = '\\' :: 'n' :: rest := by
  unfold environmentDefinition
  simp only [String.toList_append]
  exact ⟨_, rfl⟩

theorem beginCode_starts : beginCode.toList = '\\' :: 'b' :: "egin\x7bcode\x7d\n".toList := by
  unfold beginCode
  simp

/-- The line that opens the environment does not define it. -/
theorem readSheet?_of_beginCode (rest : List Char) :
    readSheet? (beginCode.toList ++ rest) = readEnvironment? false (beginCode.toList ++ rest) := by
  obtain ⟨definition, hdefinition⟩ := environmentDefinition_starts
  have hnone : environmentDefinition.toList.isPrefixOf? (beginCode.toList ++ rest) = none := by
    rw [hdefinition, beginCode_starts]
    simp [List.isPrefixOf?]
  rw [readSheet?, hnone, Option.elim_none]

theorem isSuffixOf?_append (s rest : List Char) : s.isSuffixOf? (rest ++ s) = some rest :=
  List.isSuffixOf?_eq_some_iff_append_eq.2 rfl

theorem readEnvironment?_append (preamble : Bool) {registry : Registry} {body : List Char}
    {items : List Item} (hnames : ∀ e ∈ registry.entries, '\x7d' ∉ e.name.toList)
    (hstart : definitionStart.isPrefixOf? body = none) (hitems : readItems? body = some items) :
    readEnvironment? preamble
        (beginCode.toList ++ (registry.definitions.toList ++ body ++ endCode.toList)) =
      some ⟨preamble, registry.entries.map fun e => (e.name.toList, e.color), items⟩ := by
  have hlines : registry.definitions.toList =
      registry.entries.flatMap (·.definition.toList) := by
    rw [Registry.definitions, String.toList_join, List.flatMap_map]
  rw [readEnvironment?, isPrefixOf?_append, Option.bind_some, isSuffixOf?_append,
    Option.bind_some, hlines, readDefinitions_entries hnames hstart, hitems]
  rfl

/-- **The envelope comes off**, with the definitions. -/
theorem readSheet?_envelope (options : Options) {body : Body} {items : List Item}
    (hnames : ∀ e ∈ body.registry.entries, '\x7d' ∉ e.name.toList)
    (hstart : definitionStart.isPrefixOf? body.text.toList = none)
    (hitems : readItems? body.text.toList = some items) :
    readSheet? (envelope options body).toList =
      some ⟨options.includePreamble,
        body.registry.entries.map fun e => (e.name.toList, e.color), items⟩ := by
  have henvelope : (envelope options body).toList =
      (if options.includePreamble then environmentDefinition.toList else []) ++
        (beginCode.toList ++
          (body.registry.definitions.toList ++ body.text.toList ++ endCode.toList)) := by
    unfold envelope
    split <;> simp only [String.toList_append, String.toList_empty, List.append_assoc,
      List.nil_append]
  rw [henvelope]
  by_cases hpreamble : options.includePreamble = true
  · rw [if_pos hpreamble, readSheet?_of_definition,
      readEnvironment?_append true hnames hstart hitems, hpreamble]
  · rw [if_neg hpreamble, List.nil_append, readSheet?_of_beginCode,
      readEnvironment?_append false hnames hstart hitems, Bool.eq_false_iff.2 hpreamble]

theorem definitionStart_pieces (names : Rgb → String) {pieces : List Piece} (h : Solid pieces) :
    definitionStart.isPrefixOf? (pieces.flatMap (Piece.chars names)) = none := by
  cases pieces with
  | nil => rfl
  | cons piece rest =>
    rw [List.flatMap_cons]
    exact chars_starts names (solid_cons.1 h).1 _

/-- What the listing of pieces holds: their colours, each under its name among them, and what the
pieces show. -/
def sheetOf (preamble : Bool) (pieces : List Piece) : Sheet :=
  ⟨preamble,
    (colorsOf pieces).map fun color => ((nameAmong (colorsOf pieces) color).toList, color),
    pieces.flatMap (Piece.items (nameAmong (colorsOf pieces)))⟩

/-- **A listing is read as what its pieces come to**, for every tree. -/
theorem readSheet?_convertNode (options : Options) (root : Node) :
    readSheet? (convertNode options root).toList =
      some (sheetOf options.includePreamble (piecesOf options root)) := by
  have hentries := (lists_asked ((piecesOf options root).filterMap Piece.color?)).entries
  obtain ⟨hregistry, htext⟩ := ofPieces_eq (piecesOf options root)
  rw [← hregistry] at hentries
  have hnames : ∀ colors color, '\x7d' ∉ (nameAmong colors color).toList :=
    fun colors color => notMem_of_isColorName rfl rfl (nameAmong_isColorName colors color)
  have hentry : ∀ e ∈ (Body.ofPieces (piecesOf options root)).registry.entries,
      '\x7d' ∉ e.name.toList := by
    intro e he
    rw [hentries] at he
    obtain ⟨color, -, rfl⟩ := List.mem_map.1 he
    exact hnames _ color
  have hread := readSheet?_envelope options hentry
    (by rw [htext]; exact definitionStart_pieces _ (piecesOf_solid options root))
    (by rw [htext]; exact readItems?_pieces (hnames _) _)
  rw [hentries, List.map_map] at hread
  exact hread

end TexListing.Listing
