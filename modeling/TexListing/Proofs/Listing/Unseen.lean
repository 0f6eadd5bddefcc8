import Mathlib.Data.List.Basic
import Mathlib.Logic.Relation
import TexListing.Proofs.Listing.Attributes
import TexListing.Proofs.Listing.Recursion

/-!
# What is not seen

Parts of a tree that show nothing leave no trace in a listing: what a line break holds, empty texts,
elements that neither start a line nor give a colour, the colours of elements in which no text shows,
and attributes that are no styles. None of them reaches the text, the colours in use or the names of
what comes later.

* `Silent`: a tree in which no text shows.
* `UnseenEdit`: one change of what is not seen, anywhere in a tree.
* `write_silent`: a silent tree is written the same under any colour.
* `write_unseenEdit`: a tree is written the same after a change, wherever it stands.
* `convertNode_unseen`: the listing is the same after any number of changes.
-/

namespace TexListing.Listing

open Markup Style

variable {options : Options}

/-- No text shows in the tree: every text is empty or within a line break. -/
inductive Silent : Node → Prop
  | text : Silent (.text "")
  | lineBreak {tag : String} (attrs : List Attribute) (children : List Node)
      (h : endsLine tag = true) : Silent (.element tag attrs children)
  | element (tag : String) (attrs : List Attribute) {children : List Node}
      (h : ∀ child ∈ children, Silent child) : Silent (.element tag attrs children)

/-- The trees differ in one place, by something that is not seen there. Each change can be made and
unmade. -/
inductive UnseenEdit (options : Options) : Node → Node → Prop
  /-- A line break has other attributes and holds something else. -/
  | lineBreak {tag : String} (h : endsLine tag = true) (attrs attrs' : List Attribute)
      (children children' : List Node) :
      UnseenEdit options (.element tag attrs children) (.element tag attrs' children')
  /-- An empty text stands among the children of an element. -/
  | emptyText (tag : String) (attrs : List Attribute) (before after : List Node) :
      UnseenEdit options (.element tag attrs (before ++ after))
        (.element tag attrs (before ++ .text "" :: after))
  /-- Children that stand next to each other are within an element of their own, which neither starts
  nor ends a line and whose style gives no colour. -/
  | wrapper (tag : String) (attrs : List Attribute) (before run after : List Node) {inline : String}
      (kind : classify options.blockTags inline = .inline) {inlineAttrs : List Attribute}
      (colorless : readableColor? options (.element inline inlineAttrs run) = none) :
      UnseenEdit options (.element tag attrs (before ++ run ++ after))
        (.element tag attrs (before ++ .element inline inlineAttrs run :: after))
  /-- An element in which no text shows has other attributes. -/
  | silent {tag : String} {attrs : List Attribute} {children : List Node}
      (h : Silent (.element tag attrs children)) (attrs' : List Attribute) :
      UnseenEdit options (.element tag attrs children) (.element tag attrs' children)
  /-- The attributes of an element are others, apart from its styles. -/
  | attrs (tag : String) {attrs attrs' : List Attribute} (children : List Node)
      (styles : attrs.filter (·.name.sameCaseless "style") =
        attrs'.filter (·.name.sameCaseless "style")) :
      UnseenEdit options (.element tag attrs children) (.element tag attrs' children)
  /-- The trees differ within a child of an element. -/
  | child (tag : String) (attrs : List Attribute) (before after : List Node) {node node' : Node}
      (h : UnseenEdit options node node') :
      UnseenEdit options (.element tag attrs (before ++ node :: after))
        (.element tag attrs (before ++ node' :: after))

/-! ## Writing -/

/-- The colour that an element gives is that of its attributes. -/
theorem readableColor?_congr {tag tag' : String} {attrs attrs' : List Attribute}
    {children children' : List Node} (h : style? attrs = style? attrs') :
    readableColor? options (.element tag attrs children) =
      readableColor? options (.element tag' attrs' children') := by
  rw [readableColor?_eq, readableColor?_eq, ownColor?_element, ownColor?_element, attrsColor?,
    attrsColor?, h]

/-- Elements of the same tag are written the same, if their children are, each under the colour that
its element gives. -/
theorem write_element_congr {tag : String} {attrs attrs' : List Attribute}
    {children children' : List Node} {color color' : Option Rgb}
    (h : ∀ body : Body,
      children.foldl (Body.write options
          ((readableColor? options (.element tag attrs children)).or color)) body =
        children'.foldl (Body.write options
          ((readableColor? options (.element tag attrs' children')).or color')) body)
    (body : Body) :
    body.write options color (.element tag attrs children) =
      body.write options color' (.element tag attrs' children') := by
  rw [write_element, write_element]
  split
  · rfl
  · exact h _

theorem write_emptyText (color : Option Rgb) (body : Body) :
    body.write options color (.text "") = body := by
  rw [Body.write]
  exact if_pos rfl

/-- An element that neither starts nor ends a line and gives no colour is written as its children
are. -/
theorem write_wrapper {inline : String} (kind : classify options.blockTags inline = .inline)
    {attrs : List Attribute} {run : List Node}
    (colorless : readableColor? options (.element inline attrs run) = none) (color : Option Rgb)
    (body : Body) :
    body.write options color (.element inline attrs run) =
      run.foldl (Body.write options color) body := by
  have hends : ¬ endsLine inline = true := by
    rw [← @classify_eq_lineBreak options, kind]
    simp
  have hstarts : ¬ startsLine options inline = true := by
    rw [← classify_eq_block (by simpa using hends), kind]
    simp
  rw [write_element, if_neg hends, if_neg fun h => hstarts h.1, colorless, Option.none_or]

/-- **A silent tree is written the same under any colour**: line breaks are all that it leaves. -/
theorem write_silent {node : Node} (h : Silent node) :
    ∀ (color color' : Option Rgb) (body : Body),
      body.write options color node = body.write options color' node := by
  induction h with
  | text => intro color color' body; rw [write_emptyText, write_emptyText]
  | lineBreak attrs children h =>
    intro color color' body
    rw [write_element, write_element, if_pos h, if_pos h]
  | element tag attrs h ih =>
    intro color color'
    refine write_element_congr fun body => ?_
    exact List.foldl_ext _ _ _ fun body child hchild => ih child hchild _ _ body

/-- **A change of what is not seen is not written**, whatever was written before it and under
whatever colour. -/
theorem write_unseenEdit {node node' : Node} (h : UnseenEdit options node node') :
    ∀ (color : Option Rgb) (body : Body),
      body.write options color node = body.write options color node' := by
  induction h with
  | lineBreak h attrs attrs' children children' =>
    intro color body
    rw [write_element, write_element, if_pos h, if_pos h]
  | emptyText tag attrs before after =>
    intro color
    refine write_element_congr fun body => ?_
    rw [List.foldl_append, List.foldl_append, List.foldl_cons, write_emptyText,
      readableColor?_congr rfl]
  | wrapper tag attrs before run after kind colorless =>
    -- the run is written under the colour around the wrapper, as it is without it
    intro color
    refine write_element_congr fun body => ?_
    rw [List.append_assoc, List.foldl_append, List.foldl_append, List.foldl_append, List.foldl_cons,
      write_wrapper kind colorless, readableColor?_congr rfl]
  | silent h attrs' =>
    -- the children inherit another colour, but none of them has anything to show in it
    intro color body
    cases h with
    | lineBreak _ _ h => rw [write_element, write_element, if_pos h, if_pos h]
    | element _ _ h =>
      refine write_element_congr (fun body => ?_) body
      exact List.foldl_ext _ _ _ fun body child hchild => write_silent (h child hchild) _ _ body
  | @attrs tag attrs attrs' children styles =>
    -- the first of the styles is the first of the same list
    intro color
    refine write_element_congr fun body => ?_
    have hstyle : style? attrs = style? attrs' := by
      rw [style?_eq_head?, style?_eq_head?, styles]
    rw [readableColor?_congr hstyle]
  | child tag attrs before after _ ih =>
    intro color
    refine write_element_congr fun body => ?_
    rw [List.foldl_append, List.foldl_append, List.foldl_cons, List.foldl_cons, ih,
      readableColor?_congr rfl]

/-- **What is not seen leaves no trace**: a tree has the same listing, to the last character, after
any number of changes of what is not seen in it, made and unmade in any order. -/
theorem convertNode_unseen (options : Options) {root root' : Node}
    (h : Relation.EqvGen (UnseenEdit options) root root') :
    convertNode options root = convertNode options root' := by
  have hbody : ∀ node, (transcribe options node).body = Body.write options none .empty node :=
    fun node => body_transcribeFrom [(node, none)]
  induction h with
  | rel node node' h =>
    have hsame : (transcribe options node).body = (transcribe options node').body := by
      rw [hbody, hbody, write_unseenEdit h]
    rw [convertNode, convertNode, convert, convert]
    simp only
    rw [hsame]
  | refl node => rfl
  | symm node node' _ ih => exact ih.symm
  | trans node node' node'' _ _ ih ih' => exact ih.trans ih'

/-- Another text in a line break, a colour on an element that holds the line break alone, an empty
text after it, a wrapper whose colour cannot be read around a text, and a class on the root. -/
theorem convertNode_unseen_nested :
    let colored := Attribute.mk "style" "color: rgb(1, 2, 3)"
    let root := Node.element "p" [colored]
      [.element "b" [] [.element "BR" [] [.text "x"]], .text "y"]
    let root' := Node.element "p" [colored, ⟨"class", "a"⟩]
      [.element "b" [colored] [.element "BR" [colored] [.text "z"]], .text "",
        .element "i" [⟨"style", "color: red"⟩] [.text "y"]]
    Relation.EqvGen (UnseenEdit {}) root root' ∧ convertNode {} root = convertNode {} root' := by
  intro colored root root'
  have hbreak : UnseenEdit {} (.element "b" [] [.element "BR" [] [.text "x"]])
      (.element "b" [] [.element "BR" [colored] [.text "z"]]) :=
    .child "b" [] [] [] (.lineBreak (by decide) [] [colored] [.text "x"] [.text "z"])
  have hsilent : UnseenEdit {} (.element "b" [] [.element "BR" [colored] [.text "z"]])
      (.element "b" [colored] [.element "BR" [colored] [.text "z"]]) := by
    refine .silent (.element "b" [] fun child hchild => ?_) [colored]
    rw [List.mem_singleton.1 hchild]
    exact .lineBreak [colored] [.text "z"] (by decide)
  have hinline : classify ({} : Options).blockTags "i" = .inline := by decide
  have hred :
      readableColor? {} (.element "i" [⟨"style", "color: red"⟩] [.text "y"]) = none := by
    decide
  let silent := Node.element "b" [colored] [.element "BR" [colored] [.text "z"]]
  have h : Relation.EqvGen (UnseenEdit {}) root root' := by
    refine .trans _ _ _ (.rel _ _ (.child "p" [colored] [] [.text "y"] hbreak)) ?_
    refine .trans _ _ _ (.rel _ _ (.child "p" [colored] [] [.text "y"] hsilent)) ?_
    refine .trans _ _ _ (.rel _ _ (.emptyText "p" [colored] [silent] [.text "y"])) ?_
    refine .trans _ _ _ (.rel _ _ (.wrapper "p" [colored] [silent, .text ""] [.text "y"] []
      hinline hred)) ?_
    exact .rel _ _ (.attrs "p" _ (by decide))
  exact ⟨h, convertNode_unseen {} h⟩

end TexListing.Listing
