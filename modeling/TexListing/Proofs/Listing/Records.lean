import TexListing.Proofs.Listing.Attributes
import TexListing.Proofs.Listing.Definitions
import TexListing.Proofs.Listing.Recursion
import TexListing.Proofs.Style.Precedence

/-!
# What a conversion tells

A conversion tells of every element that shows and whose style declares colours of which none can be
read, and at the end how large the result is. The elements are told in document order; the nodes that
a line break holds are counted, although they are not read.

* `rejection?`: what is wrong with the colours of a style.
* `ignored?`, `ignoredOf`: what is told of a node, given the elements around it, and of a tree.
* `deciding?_error`, `styleColor?_error`: a style comes to an error exactly if its colours are
  rejected for it.
* `read_ignored`: reading a tree ignores its nodes in document order.
* `colorCount`: how many colours the texts of a tree show in, which are those that its body uses
  (`size_registry`).
* `convert_records`: what the conversion of a tree tells.
-/

namespace TexListing.Style

/-- The error of an outcome. -/
def errorOf? : Except ColorError Rgb → Option ColorError
  | .error e => some e
  | .ok _ => none

/-- What is wrong with the colours of a style: if there are any and none can be read, the error of
the last one. -/
def rejection? (colorSyntax : ColorSyntax) (style : String) : Option ColorError :=
  if ∀ value ∈ colorDeclarations style, (parseColor colorSyntax value).isOk = false then
    (colorDeclarations style).getLast?.bind fun value => errorOf? (parseColor colorSyntax value)
  else none

/-- **Outcomes come to an error** exactly if none of them is a colour, and then to the last one. -/
theorem deciding?_error (outcomes : List (Except ColorError Rgb)) :
    (deciding? outcomes).bind errorOf? =
      if ∀ outcome ∈ outcomes, outcome.isOk = false then outcomes.getLast?.bind errorOf?
      else none := by
  rw [deciding?]
  cases hfind : outcomes.reverse.find? Except.isOk with
  | some outcome =>
    have hmem := List.mem_reverse.1 (List.mem_of_find?_eq_some hfind)
    have hok : outcome.isOk = true := List.find?_some hfind
    rw [if_neg fun hnone => Bool.false_ne_true ((hnone outcome hmem).symm.trans hok)]
    cases outcome with
    | ok color => rfl
    | error e => exact absurd hok Bool.false_ne_true
  | none =>
    have hnone : ∀ outcome ∈ outcomes, outcome.isOk = false := fun outcome hmem => by
      simpa using List.find?_eq_none.1 hfind outcome (List.mem_reverse.2 hmem)
    rw [if_pos hnone, Option.none_or]

/-- The outcomes of a style are those of its declarations. -/
theorem map_colorDeclarations (colorSyntax : ColorSyntax) (style : String) :
    (colorDeclarations style).map (parseColor colorSyntax) =
      (colorValues style.toList).map (parseValue colorSyntax) := by
  rw [colorDeclarations, List.map_map]
  refine List.map_congr_left fun value _ => ?_
  rw [Function.comp_apply, parseColor, String.toList_ofList]

/-- **A style comes to an error** exactly if its colours are rejected for it. -/
theorem styleColor?_error (colorSyntax : ColorSyntax) (style : String) :
    (styleColor? colorSyntax style).bind errorOf? = rejection? colorSyntax style := by
  rw [styleColor?_eq, ← map_colorDeclarations, deciding?_error, rejection?, List.getLast?_map,
    Option.bind_map]
  simp only [List.forall_mem_map]
  rfl

end TexListing.Style

namespace TexListing.Listing

open Markup Style

variable {options : Options}

/-! ## Ignored colours -/

/-- What is told of a node, given the elements around it: of an element that is no line break and is
within none, that the colours of its first style are rejected. -/
def ignored? (options : Options) : Node × List Node → Option Ignored
  | (.element tag attrs _, around) =>
    if Hidden around ∨ endsLine tag = true then none
    else ((style? attrs).bind (rejection? options.colorSyntax)).map (⟨tag, ·⟩)
  | (.text _, _) => none

/-- What is told of the nodes of a tree, in document order. -/
def ignoredOf (options : Options) (root : Node) : List Ignored :=
  (root.occurrences []).filterMap (ignored? options)

theorem write_ignored (t : Transcript) (content : String) (color : Option Rgb) :
    (t.write content color).ignored = t.ignored := by
  unfold Transcript.write
  split <;> rfl

/-- An element whose colours are rejected is ignored when it is entered. -/
theorem enter_ignored (t : Transcript) (kind : TagKind) (tag : String)
    (own : Option (Except ColorError Rgb)) :
    (t.enter kind tag own).ignored =
      ((own.bind errorOf?).map (⟨tag, ·⟩)).toList ++ t.ignored := by
  have hstart : (if kind = .block then t.startLine else t).ignored = t.ignored := by
    unfold Transcript.startLine
    split
    · split <;> rfl
    · rfl
  unfold Transcript.enter
  rcases own with - | (e | color)
  · exact hstart
  · exact congrArg (⟨tag, e⟩ :: ·) hstart
  · exact hstart

theorem ownColor?_error (tag : String) (attrs : List Attribute) (children : List Node) :
    (ownColor? options (.element tag attrs children)).bind errorOf? =
      (style? attrs).bind (rejection? options.colorSyntax) := by
  rw [ownColor?_element, attrsColor?, Option.bind_assoc]
  simp only [styleColor?_error]

theorem ignored?_hidden (node : Node) {around : List Node} (h : Hidden around) :
    ignored? options (node, around) = none := by
  cases node with
  | text content => rfl
  | element tag attrs children => rw [ignored?, if_pos (.inl h)]

/-- **Nothing is told of what a line break holds.** -/
theorem filterMap_ignored?_hidden (node : Node) :
    ∀ {around : List Node}, Hidden around →
      (node.occurrences around).filterMap (ignored? options) = [] := by
  induction node using Node.induction with
  | text content => intro around _; rw [occurrences_text]; rfl
  | element tag attrs children ih =>
    intro around h
    have hin : Hidden (.element tag attrs children :: around) := (hidden_cons _ _).2 (.inr h)
    rw [occurrences_element, List.filterMap_cons_none (ignored?_hidden _ h), List.filterMap_flatMap,
      List.flatMap_eq_nil_iff]
    exact fun child hchild => ih child hchild hin

/-- What each element of a list adds, a fold over the list adds one after the other. -/
theorem foldl_append_of_step {σ τ ν : Type} {f : σ → ν → σ} {h : σ → List τ} {g : ν → List τ}
    (nodes : List ν) (hstep : ∀ n ∈ nodes, ∀ s, h (f s n) = h s ++ g n) :
    ∀ s, h (nodes.foldl f s) = h s ++ nodes.flatMap g := by
  induction nodes with
  | nil => intro s; simp
  | cons n rest ih =>
    intro s
    rw [List.foldl_cons, ih fun m hm => hstep m (by simp [hm]), hstep n (by simp),
      List.flatMap_cons, List.append_assoc]

/-- **Reading a tree ignores its nodes in document order**, if it is not within a line break. The
colour around the tree makes no difference. -/
theorem read_ignored (node : Node) :
    ∀ {around : List Node} (color : Option Rgb) (t : Transcript), ¬ Hidden around →
      (t.read options color node).ignored.reverse =
        t.ignored.reverse ++ (node.occurrences around).filterMap (ignored? options) := by
  induction node using Node.induction with
  | text content =>
    intro around color t h
    rw [read_text, write_ignored, occurrences_text]
    simp [ignored?]
  | element tag attrs children ih =>
    intro around color t h
    rw [read_element, occurrences_element]
    by_cases ht : endsLine tag = true
    · -- nothing is told of a line break, nor of what it holds
      have hin : Hidden (.element tag attrs children :: around) := (hidden_cons _ _).2 (.inl ht)
      have hself : ignored? options (.element tag attrs children, around) = none := by
        rw [ignored?, if_pos (.inr ht)]
      have hchildren : (children.flatMap
          (Node.occurrences (.element tag attrs children :: around))).filterMap
            (ignored? options) = [] := by
        rw [List.filterMap_flatMap, List.flatMap_eq_nil_iff]
        exact fun child _ => filterMap_ignored?_hidden child hin
      rw [if_pos (classify_eq_lineBreak.2 ht), List.filterMap_cons_none hself, hchildren,
        List.append_nil]
      rfl
    · -- the element is told of before its children
      have hin : ¬ Hidden (.element tag attrs children :: around) := by
        rw [hidden_cons, not_or]
        exact ⟨ht, h⟩
      have hself : ignored? options (.element tag attrs children, around) =
          ((style? attrs).bind (rejection? options.colorSyntax)).map (⟨tag, ·⟩) := by
        rw [ignored?, if_neg (not_or.2 ⟨h, ht⟩)]
      have hchildren := foldl_append_of_step (h := fun t : Transcript => t.ignored.reverse) children
        (fun child hchild t => ih child hchild
          (innerColor (ownColor? options (.element tag attrs children)) color) t hin)
      rw [if_neg (mt classify_eq_lineBreak.1 ht), hchildren, enter_ignored, ownColor?_error,
        ← hself, List.filterMap_cons, List.filterMap_flatMap]
      cases ignored? options (.element tag attrs children, around) <;> simp

/-- The colours that a conversion ignores, in document order. -/
theorem transcribe_ignored (options : Options) (root : Node) :
    (transcribe options root).ignored.reverse = ignoredOf options root := by
  have hvisible : ¬ Hidden [] := by simp [Hidden]
  rw [transcribe_eq, read_ignored root none .empty hvisible]
  rfl

/-! ## The size of a result -/

/-- The number of distinct colours that the texts of a tree show in. -/
def colorCount (options : Options) (root : Node) : Nat :=
  ((coloredTexts options root).map Prod.snd).eraseDups.length

/-- **A body uses the colours of the texts that show.** -/
theorem size_registry (options : Options) (root : Node) :
    (transcribe options root).body.registry.size = colorCount options root := by
  obtain ⟨hregistry, -⟩ := ofPieces_eq (piecesOf options root)
  have hentries := (lists_asked ((piecesOf options root).filterMap Piece.color?)).entries
  have hbody : (transcribe options root).body = Body.ofPieces (piecesOf options root) := rfl
  rw [colorCount, coloredTexts_eq, map_snd_colored, hbody, hregistry, Registry.size, hentries,
    List.length_map]

/-! ## Records -/

/-- **What the conversion of a tree tells.** First, in document order, each element that is no `br`
and has none around it, and of whose first style there are colour declarations but none that can be
read, with its tag and the error of the last declaration; nothing of any other node. Then, once, the
number of all nodes of the tree, the bytes of the body and the number of distinct colours of the
texts that show. -/
theorem convert_records (options : Options) (root : Node) :
    (convert options root).records =
      (ignoredOf options root).map .colorIgnored ++
        [.converted root.size (Body.write options none .empty root).text.utf8ByteSize
          (colorCount options root)] ∧
    (convert options root).records.map (fun record => (record.level, record.message)) =
      (ignoredOf options root).map (fun ignored =>
        (.debug, "ignoring color on <" ++ ignored.tag ++ ">: " ++ ignored.error.message)) ++
      [(.trace, "converted " ++ toString root.size ++ " nodes into " ++
        toString (Body.write options none .empty root).text.utf8ByteSize ++ " bytes with " ++
        toString (colorCount options root) ++ " colors")] := by
  have hrecords : (convert options root).records =
      (ignoredOf options root).map .colorIgnored ++
        [.converted root.size (Body.write options none .empty root).text.utf8ByteSize
          (colorCount options root)] := by
    rw [← transcribe_ignored, ← size_registry, ← body_transcribe, ← count_eq_size]
    rfl
  refine ⟨hrecords, ?_⟩
  rw [hrecords, List.map_append, List.map_map]
  rfl

end TexListing.Listing
