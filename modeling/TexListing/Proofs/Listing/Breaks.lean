import Mathlib.Data.List.Infix
import TexListing.Proofs.Listing.Recursion
import TexListing.Proofs.Listing.Sheet

/-!
# The line breaks of a listing

How many line breaks a body has can be told from the tree: one for each `br` that shows, and one for
each block that shows and comes after something that shows. A conversion decides by the text that
has been written so far; the tree decides by document order.

* `countOf`: how often a pattern stands in a text.
* `withBefore`: the elements of a list, each with those before it.
* `showsKind`, `showsText`, `showsFirst`: what a node is for the lines of a listing.
* `countOf_pieces`: the text of pieces has the line breaks among the pieces and no others, so
  no characters of a text make one.
* `foldl_place_breaks`, `foldl_place_eq_nil`: the line breaks among the pieces, node by node.
* `countOf_body`: the line breaks of a body.
-/

namespace TexListing.Listing

open Latex Markup

variable {options : Options}

/-! ## Patterns -/

/-- The number of places of a text at which a pattern stands. -/
def countOf (pattern s : List Char) : Nat :=
  s.tails.countP (pattern.isPrefixOf ·)

theorem countOf_cons (pattern : List Char) (c : Char) (s : List Char) :
    countOf pattern (c :: s) =
      countOf pattern s + if pattern.isPrefixOf (c :: s) = true then 1 else 0 := by
  rw [countOf, List.tails_cons, List.countP_cons]
  rfl

/-- A line break stands nowhere but at a backslash. -/
theorem countOf_append_of_notMem {w : List Char} (h : '\\' ∉ w) (rest : List Char) :
    countOf lineBreak.toList (w ++ rest) = countOf lineBreak.toList rest := by
  induction w with
  | nil => rfl
  | cons c w ih =>
    rw [List.mem_cons, not_or] at h
    have hstart : ['\\', '\\', '\n'].isPrefixOf (c :: (w ++ rest)) = false := by
      simp [List.isPrefixOf, h.1]
    rw [List.cons_append, countOf_cons, ih h.2, toList_lineBreak, hstart]
    rfl

/-- Characters of which only the first is a backslash make no line break, whatever comes after them,
unless they start one. -/
theorem countOf_append_of_start {w : List Char} {rest : List Char} (htail : '\\' ∉ w.tail)
    (hstart : lineBreak.toList.isPrefixOf? (w ++ rest) = none) :
    countOf lineBreak.toList (w ++ rest) = countOf lineBreak.toList rest := by
  cases w with
  | nil => rfl
  | cons c w =>
    rw [List.tail_cons] at htail
    rw [List.cons_append] at hstart ⊢
    rw [countOf_cons, countOf_append_of_notMem htail,
      ← List.isSome_isPrefixOf?_eq_isPrefixOf, hstart]
    rfl

theorem countOf_lineBreak_append (rest : List Char) :
    countOf lineBreak.toList (lineBreak.toList ++ rest) =
      countOf lineBreak.toList rest + 1 := by
  rw [toList_lineBreak]
  simp [countOf_cons, List.isPrefixOf]

/-! ## Pieces -/

theorem escapeChar_tail (c : Char) : '\\' ∉ (escapeChar c).tail := by
  rcases escapeChar_cases c with ⟨hc, he⟩ | ⟨name, hc, he⟩ | ⟨-, he⟩ <;> rw [he, List.tail_cons]
  · have hsymbols : '\\' ∉ symbols := by decide
    rw [List.mem_singleton]
    intro hbackslash
    exact hsymbols (hbackslash ▸ hc)
  · have hcommands : ∀ command ∈ commands, '\\' ∉ command.1 := by decide
    exact hcommands _ hc
  · exact List.not_mem_nil

/-- **No text makes a line break**, whatever comes after it. -/
theorem countOf_escapeChars (s rest : List Char) :
    countOf lineBreak.toList (escapeChars s ++ rest) =
      countOf lineBreak.toList rest := by
  induction s with
  | nil => rfl
  | cons c s ih =>
    rw [escapeChars, List.flatMap_cons, List.append_assoc, ← escapeChars,
      countOf_append_of_start (escapeChar_tail c) (escapeChar_starts c _).1, ih]

/-- Not even the characters of a line break make one. -/
example : countOf lineBreak.toList (escapeChars lineBreak.toList) = 0 := by decide

theorem countOf_colored {name : String} (h : '\\' ∉ name.toList) (content : String)
    (rest : List Char) :
    countOf lineBreak.toList ((Body.colored name content).toList ++ rest) =
      countOf lineBreak.toList rest := by
  have hopen : '\\' ∉ ['\x7d', '\x7b'] := by decide
  have hclose : '\\' ∉ ['\x7d'] := by decide
  have hcolored : (Body.colored name content).toList ++ rest =
      groupStart ++ (name.toList ++ (['\x7d', '\x7b'] ++
        (escapeChars content.toList ++ (['\x7d'] ++ rest)))) := by
    rw [toList_colored]
    simp
  rw [hcolored, countOf_append_of_start (by decide) (groupStart_starts _).1,
    countOf_append_of_notMem h, countOf_append_of_notMem hopen,
    countOf_escapeChars, countOf_append_of_notMem hclose]

/-- **The text of pieces has the line breaks among the pieces**, and no others. -/
theorem countOf_pieces {names : Rgb → String} (h : ∀ color, '\\' ∉ (names color).toList)
    (pieces : List Piece) :
    countOf lineBreak.toList (pieces.flatMap (Piece.chars names)) =
      pieces.count .lineBreak := by
  induction pieces with
  | nil => rfl
  | cons piece rest ih =>
    rw [List.flatMap_cons, List.count_cons, ← ih]
    rcases piece with - | ⟨content, - | color⟩
    · exact countOf_lineBreak_append _
    · exact countOf_escapeChars content.toList _
    · exact countOf_colored (h color) content _

/-! ## Document order -/

/-- The elements of a list, each with those before it. -/
def withBefore {α : Type} (xs : List α) : List (List α × α) :=
  xs.inits.zip xs

theorem withBefore_cons {α : Type} (x : α) (xs : List α) :
    withBefore (x :: xs) = ([], x) :: (withBefore xs).map (Prod.map (x :: ·) id) := by
  rw [withBefore, List.inits_cons, List.zip_cons_cons, List.zip_map_left]
  rfl

theorem withBefore_concat {α : Type} (xs : List α) (x : α) :
    withBefore (xs ++ [x]) = withBefore xs ++ [(xs, x)] := by
  induction xs with
  | nil => rfl
  | cons y ys ih =>
    rw [List.cons_append, withBefore_cons, ih, withBefore_cons, List.map_append]
    rfl

/-- The node is an element of that kind, with no line break around it. -/
def showsKind (options : Options) (kind : TagKind) : Node × List Node → Bool
  | (.element tag _ _, around) => classify options.blockTags tag = kind ∧ ¬ Hidden around
  | (.text _, _) => false

/-- The node is a text that is not empty, with no line break around it. -/
def showsText : Node × List Node → Bool
  | (.text content, around) => content ≠ "" ∧ ¬ Hidden around
  | (.element .., _) => false

/-- The node shows even if nothing stands before it: it is a text or a line break. -/
def showsFirst (options : Options) (occurrence : Node × List Node) : Bool :=
  showsText occurrence || showsKind options .lineBreak occurrence

theorem showsKind_lineBreak {tag : String} {attrs : List Attribute} {children around : List Node} :
    showsKind options .lineBreak (.element tag attrs children, around) = true ↔
      endsLine tag = true ∧ ¬ Hidden around := by
  rw [showsKind, decide_eq_true_eq, classify_eq_lineBreak]

theorem showsKind_block {tag : String} {attrs : List Attribute} {children around : List Node} :
    showsKind options .block (.element tag attrs children, around) = true ↔
      endsLine tag = false ∧ startsLine options tag = true ∧ ¬ Hidden around := by
  rw [showsKind, decide_eq_true_eq]
  cases ht : endsLine tag with
  | true => simp [@classify_eq_lineBreak options tag |>.2 ht]
  | false => simp [classify_eq_block ht]

/-- Pieces stay empty only as long as nothing shows that can come first. -/
theorem place_eq_nil (pieces : List Piece) (occurrence : Node × List Node) :
    place options pieces occurrence = [] ↔
      pieces = [] ∧ ¬ showsFirst options occurrence = true := by
  obtain ⟨⟨tag, attrs, children⟩ | content, around⟩ := occurrence <;>
    rw [place, showsFirst, Bool.or_eq_true]
  · rw [showsKind_lineBreak, showsText]
    by_cases hh : Hidden around
    · simp [hh]
    · by_cases ht : endsLine tag = true
      · simp [hh, ht]
      · by_cases hs : startsLine options tag = true <;> by_cases hp : pieces = [] <;>
          simp [hh, ht, hs, hp]
  · by_cases hh : Hidden around <;> by_cases hc : content = "" <;>
      simp [showsText, showsKind, hh, hc]

/-- **One more node** makes a line break if it is one, or if it is a block and anything stands
before it. -/
theorem count_place (pieces : List Piece) (occurrence : Node × List Node) :
    (place options pieces occurrence).count .lineBreak =
      pieces.count .lineBreak +
        (if showsKind options .lineBreak occurrence = true then 1 else 0) +
        if showsKind options .block occurrence = true ∧ pieces ≠ [] then 1 else 0 := by
  obtain ⟨⟨tag, attrs, children⟩ | content, around⟩ := occurrence <;> rw [place]
  · simp only [showsKind_lineBreak, showsKind_block]
    by_cases hh : Hidden around
    · simp [hh]
    · by_cases ht : endsLine tag = true
      · simp [hh, ht]
      · by_cases hs : startsLine options tag = true <;> by_cases hp : pieces = [] <;>
          simp [hh, ht, hs, hp]
  · by_cases hh : Hidden around <;> by_cases hc : content = "" <;> simp [showsKind, hh, hc]

/-- **Pieces are empty** exactly if no node shows that can come first. -/
theorem foldl_place_eq_nil (nodes : List (Node × List Node)) :
    nodes.foldl (place options) [] = [] ↔ ¬ nodes.any (showsFirst options) = true := by
  induction nodes using List.reverseRecOn with
  | nil => simp
  | append_singleton nodes node ih =>
    rw [List.foldl_concat, place_eq_nil, ih]
    simp

/-- **The line breaks among the pieces**: each line break that shows, and each block that shows after
a node that can come first. -/
theorem foldl_place_breaks (nodes : List (Node × List Node)) :
    (nodes.foldl (place options) []).count .lineBreak =
      nodes.countP (showsKind options .lineBreak) +
        (withBefore nodes).countP fun (before, node) =>
          showsKind options .block node && before.any (showsFirst options) := by
  induction nodes using List.reverseRecOn with
  | nil => rfl
  | append_singleton nodes node ih =>
    have hbefore : nodes.foldl (place options) [] ≠ [] ↔ nodes.any (showsFirst options) = true := by
      rw [ne_eq, foldl_place_eq_nil, Decidable.not_not]
    rw [List.foldl_concat, count_place, ih, withBefore_concat, List.countP_append,
      List.countP_append, List.countP_singleton, List.countP_singleton]
    simp only [Bool.and_eq_true, hbefore]
    omega

/-- **The line breaks of a body** are those of its tree: one for each `br` with no `br` around it,
and one for each block with no `br` around it that a text or such a `br` comes before in document
order. Until one of those has come the body stays empty, however deep the blocks are nested. -/
theorem countOf_body (options : Options) (root : Node) :
    (countOf lineBreak.toList (transcribe options root).body.text.toList =
      (root.occurrences []).countP (showsKind options .lineBreak) +
        (withBefore (root.occurrences [])).countP fun (before, node) =>
          showsKind options .block node && before.any (showsFirst options)) ∧
    ((transcribe options root).body.text = "" ↔
      ¬ (root.occurrences []).any (showsFirst options) = true) := by
  have hbody : (transcribe options root).body = Body.ofPieces (piecesOf options root) := rfl
  obtain ⟨-, htext⟩ := ofPieces_eq (piecesOf options root)
  have hnames : ∀ color, '\\' ∉
      (nameAmong (colorsOf (piecesOf options root)) color).toList :=
    fun color => notMem_of_isColorName rfl rfl (nameAmong_isColorName _ color)
  refine ⟨?_, ?_⟩
  · rw [hbody, htext, countOf_pieces hnames, piecesOf_eq, foldl_place_breaks]
  · have hsolid : Solid (transcribe options root).pieces := by
      rw [transcribe_eq]
      exact read_solid root none .empty solid_empty
    rw [Transcript.body, text_ofPieces_eq_empty hsolid, ← List.reverse_eq_nil_iff, ← piecesOf,
      piecesOf_eq, foldl_place_eq_nil]

end TexListing.Listing
