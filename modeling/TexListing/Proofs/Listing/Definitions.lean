import Mathlib.Data.List.Forall2
import Mathlib.Data.List.Nodup
import TexListing.Proofs.Listing.Sheet

/-!
# Definitions and uses

A listing defines the colours that its texts show in, and no others. The definitions, the groups of
the body and the texts of the tree come from different places; these lemmas bring all of them down
to the pieces of the tree.

* `coloredTexts`: the texts of a tree that show in a colour, in document order.
* `Sheet.Matches`: the definitions and the groups of a listing fit such texts.
* `coloredTexts_eq`, `groups_eq`: both the texts and the groups are those of the pieces.
* `convertNode_matches`: the definitions and the groups of a listing fit the texts of its tree.
-/

namespace TexListing.Listing

open Markup

/-! ## The texts of a tree -/

/-- The characters of a text and the colour that they show in: the colour of the nearest element
that has one. Within a line break no text shows, and no characters show nowhere. -/
def coloredText? (options : Options) : Node × List Node → Option (String × Rgb)
  | (.text content, around) =>
    if Hidden around ∨ content = "" then none
    else (nearestColor? options around).map (content, ·)
  | (.element .., _) => none

/-- The texts of a tree that show in a colour, in document order. -/
def coloredTexts (options : Options) (root : Node) : List (String × Rgb) :=
  (root.occurrences []).filterMap (coloredText? options)

/-- The characters and the colour of a run in a colour. -/
def Piece.colored? : Piece → Option (String × Rgb)
  | .run content (some color) => some (content, color)
  | _ => none

theorem place_colored {options : Options} (pieces : List Piece)
    (occurrence : Node × List Node) :
    (place options pieces occurrence).filterMap Piece.colored? =
      pieces.filterMap Piece.colored? ++ (coloredText? options occurrence).toList := by
  obtain ⟨⟨tag, attrs, children⟩ | content, around⟩ := occurrence <;>
    rw [place, coloredText?]
  · split
    · simp
    · split
      · rw [List.filterMap_append]; rfl
      · simp
  · split
    · simp
    · rw [List.filterMap_append]
      cases nearestColor? options around <;> rfl

/-- **The texts of a tree are the runs of its pieces**, as far as they are in a colour. -/
theorem coloredTexts_eq (options : Options) (root : Node) :
    coloredTexts options root = (piecesOf options root).filterMap Piece.colored? := by
  -- along any part of the document order, after any pieces
  have hfold : ∀ (occurrences : List (Node × List Node)) (pieces : List Piece),
      (occurrences.foldl (place options) pieces).filterMap Piece.colored? =
        pieces.filterMap Piece.colored? ++ occurrences.filterMap (coloredText? options) := by
    intro occurrences
    induction occurrences with
    | nil => intro pieces; simp
    | cons occurrence rest ih =>
      intro pieces
      rw [List.foldl_cons, ih, place_colored, List.append_assoc]
      cases hc : coloredText? options occurrence <;> simp [hc]
  rw [piecesOf_eq, hfold, List.filterMap_nil, List.nil_append, coloredTexts]

theorem map_snd_colored (pieces : List Piece) :
    (pieces.filterMap Piece.colored?).map Prod.snd = pieces.filterMap Piece.color? := by
  rw [List.map_filterMap]
  congr 1
  funext piece
  rcases piece with - | ⟨content, - | color⟩ <;> rfl

/-! ## The groups of a listing -/

/-- The name and the characters of a group. -/
def Item.group? : Item → Option (List Char × List Char)
  | .group name content => some (name, content)
  | _ => none

/-- The groups of a listing: under which name which characters. -/
def Sheet.groups (sheet : Sheet) : List (List Char × List Char) :=
  sheet.items.filterMap Item.group?

/-- **The groups of pieces are their runs in a colour**, each under the name of its colour. -/
theorem groups_eq (names : Rgb → String) (pieces : List Piece) :
    (pieces.flatMap (Piece.items names)).filterMap Item.group? =
      (pieces.filterMap Piece.colored?).map fun text =>
        ((names text.2).toList, text.1.toList) := by
  induction pieces with
  | nil => rfl
  | cons piece rest ih =>
    rw [List.flatMap_cons, List.filterMap_append, ih]
    rcases piece with - | ⟨content, - | color⟩
    · rfl
    · have hnone : (content.toList.map Item.glyph).filterMap Item.group? = [] := by
        rw [List.filterMap_map, List.filterMap_eq_nil_iff]
        intro c _
        rfl
      rw [Piece.items, hnone]
      rfl
    · rfl

/-! ## Matching -/

/-- The definitions and the groups of a listing fit texts in colours: the colours that are defined
are those of the texts, each once and in the order of first use; no name is defined twice; the
groups are the texts, each under the name that is defined for its colour; every name that is defined
is used; and nothing is defined only if there is nothing to define it for. -/
structure Sheet.Matches (sheet : Sheet) (texts : List (String × Rgb)) : Prop where
  colors : sheet.definitions.map Prod.snd = (texts.map Prod.snd).eraseDups
  names : (sheet.definitions.map Prod.fst).Nodup
  groups : List.Forall₂ (fun group text =>
    group.2 = text.1.toList ∧ (group.1, text.2) ∈ sheet.definitions) sheet.groups texts
  used : ∀ name ∈ sheet.definitions.map Prod.fst, name ∈ sheet.groups.map Prod.fst
  none_defined : sheet.definitions = [] ↔ texts = []

/-- Definitions and groups that are both made from the texts fit them, if no two colours share a
name. -/
theorem matches_of_names {sheet : Sheet} {texts : List (String × Rgb)} {names : Rgb → String}
    (hnames : ∀ c ∈ texts.map Prod.snd, ∀ d, names c = names d → c = d)
    (hdefinitions : sheet.definitions =
      (texts.map Prod.snd).eraseDups.map fun color => ((names color).toList, color))
    (hgroups : sheet.groups = texts.map fun text => ((names text.2).toList, text.1.toList)) :
    sheet.Matches texts where
  colors := by rw [hdefinitions, List.map_map]; exact List.map_id _
  names := by
    rw [hdefinitions, List.map_map]
    refine List.Nodup.map_on ?_ (lists_asked _).nodup
    intro c hc d _ h
    exact hnames c (List.mem_eraseDups.1 hc) d (String.toList_inj.1 h)
  groups := by
    rw [hgroups, List.forall₂_map_left_iff, List.forall₂_same]
    intro text ht
    refine ⟨rfl, ?_⟩
    rw [hdefinitions, List.mem_map]
    exact ⟨text.2, List.mem_eraseDups.2 (List.mem_map_of_mem ht), rfl⟩
  used := by
    intro name hname
    rw [hdefinitions, List.map_map, List.mem_map] at hname
    obtain ⟨color, hcolor, rfl⟩ := hname
    obtain ⟨text, ht, rfl⟩ := List.mem_map.1 (List.mem_eraseDups.1 hcolor)
    rw [hgroups, List.map_map, List.mem_map]
    exact ⟨text, ht, rfl⟩
  none_defined := by
    rw [hdefinitions, List.map_eq_nil_iff]
    cases texts with
    | nil => simp
    | cons text rest => simp [List.eraseDups_cons]

/-- **Definitions and uses match** in the listing of every tree. It is read without fail, and its
definitions and groups fit the texts of the tree that show in a colour. A colour of an element in
which no text shows is not defined. -/
theorem convertNode_matches (options : Options) (root : Node) :
    ∃ sheet, readSheet? (convertNode options root).toList = some sheet ∧
      sheet.Matches (coloredTexts options root) := by
  refine ⟨_, readSheet?_convertNode options root, ?_⟩
  rw [coloredTexts_eq]
  refine @matches_of_names _ _ (nameAmong (colorsOf (piecesOf options root))) ?_ ?_ ?_
  · intro c hc d h
    rw [map_snd_colored] at hc
    exact nameAmong_inj (List.mem_eraseDups.2 hc) h
  · rw [map_snd_colored]; rfl
  · exact groups_eq _ _

end TexListing.Listing
