import TexListing.Proofs.Listing.Recursion

/-!
# Growing trees

A tree that grows at its end gives a listing that grows at its ends: the definitions and the text
stay as they are, and more may come after each. What comes last in a tree is written last, and
writing changes nothing of what has been written.

* `Body.Extends`: a body in which another one is kept.
* `extends_write`: writing a tree keeps what has been written.
* `AddedLast`: one tree is another with one more child at its end.
* `write_addedLast`: the larger tree is written by going on after the smaller one.
* `convertNode_addedLast`: the listing of the larger tree keeps the definitions, the text and the
  names of the colours.
-/

namespace TexListing

namespace Registry

variable {reg reg' : Registry}

/-- A request keeps the entries. -/
theorem entries_nameFor (reg : Registry) (color : Rgb) :
    reg.entries <+: (reg.nameFor color).2.entries := by
  unfold nameFor
  split
  · exact List.prefix_refl _
  · exact List.prefix_append _ _

/-- A registry that goes on after another one gives the same names. -/
theorem get?_of_isPrefix (h : reg.entries <+: reg'.entries) {color : Rgb} {name : String}
    (hname : reg.get? color = some name) : reg'.get? color = some name := by
  obtain ⟨later, hlater⟩ := h
  unfold get? at hname ⊢
  obtain ⟨entry, hfound, hentry⟩ := Option.map_eq_some_iff.1 hname
  rw [← hlater, List.find?_append, hfound, Option.some_or, Option.map_some, hentry]

/-- A registry that goes on after another one starts with the same definitions. -/
theorem definitions_of_isPrefix (h : reg.entries <+: reg'.entries) :
    ∃ later, reg'.definitions = reg.definitions ++ later := by
  obtain ⟨later, hlater⟩ := h
  refine ⟨String.join (later.map Entry.definition), ?_⟩
  rw [definitions, definitions, ← hlater, List.map_append, String.join_append]

end Registry

namespace Listing

open Markup

variable {options : Options}

/-! ## Writing goes on -/

/-- What the first body holds is kept in the second, and more may come after it. -/
structure Body.Extends (body body' : Body) : Prop where
  entries : body.registry.entries <+: body'.registry.entries
  text : ∃ later, body'.text = body.text ++ later

namespace Body.Extends

theorem refl (body : Body) : body.Extends body :=
  ⟨List.prefix_refl _, "", by simp⟩

theorem trans {a b c : Body} (h : a.Extends b) (h' : b.Extends c) : a.Extends c := by
  obtain ⟨hentries, later, hlater⟩ := h
  obtain ⟨hentries', later', hlater'⟩ := h'
  refine ⟨hentries.trans hentries', later ++ later', ?_⟩
  rw [hlater', hlater, String.append_assoc]

end Body.Extends

theorem extends_endLine (body : Body) : body.Extends body.endLine :=
  ⟨List.prefix_refl _, _, rfl⟩

theorem extends_writeText (body : Body) (content : String) (color : Option Rgb) :
    body.Extends (body.writeText content color) := by
  unfold Body.writeText
  split
  · exact .refl body
  · cases color with
    | none => exact ⟨List.prefix_refl _, _, rfl⟩
    | some color => exact ⟨body.registry.entries_nameFor color, _, rfl⟩

/-- **Writing a tree keeps what has been written**, under any colour. -/
theorem extends_write (node : Node) :
    ∀ (color : Option Rgb) (body : Body), body.Extends (body.write options color node) := by
  induction node using Node.induction with
  | text content =>
    intro color body
    rw [Body.write]
    exact extends_writeText body content color
  | element tag attrs children ih =>
    intro color body
    rw [write_element]
    split
    · exact extends_endLine body
    · -- the line that the element starts, and then the children one by one
      refine List.foldlRecOn (motive := body.Extends) children _ ?_ ?_
      · split
        · exact extends_endLine body
        · exact .refl body
      · intro body' h child hchild
        exact h.trans (ih child hchild _ body')

/-! ## Trees that grow at their end -/

/-- The second tree is the first with one more child at the end of an element, which is reached by
last children and within no line break. -/
inductive AddedLast (child : Node) : Node → Node → Prop
  /-- The element is the tree itself. -/
  | here {tag : String} (h : endsLine tag = false) (attrs : List Attribute)
      (children : List Node) :
      AddedLast child (.element tag attrs children) ((Node.element tag attrs children).addChild child)
  /-- The element is within the last child of the tree. -/
  | last {tag : String} (h : endsLine tag = false) (attrs : List Attribute) (before : List Node)
      {node node' : Node} (inner : AddedLast child node node') :
      AddedLast child (.element tag attrs (before ++ [node]))
        (.element tag attrs (before ++ [node']))

/-- An element that is no line break is written by going on after its children, if their last one
is; the colour that they inherit does not depend on them. -/
theorem write_element_concat {tag : String} (h : endsLine tag = false) (attrs : List Attribute)
    (children : List Node) (node : Node) (color : Option Rgb) (body : Body) :
    body.write options color (.element tag attrs (children ++ [node])) =
      (body.write options color (.element tag attrs children)).write options
        ((readableColor? options (.element tag attrs children)).or color) node := by
  have hline : ¬ endsLine tag = true := by simp [h]
  have hcolor : readableColor? options (.element tag attrs (children ++ [node])) =
      readableColor? options (.element tag attrs children) := rfl
  rw [write_element, write_element, if_neg hline, if_neg hline, hcolor, List.foldl_append]
  rfl

/-- **A tree that has grown at its end is written by going on after it**: the new child comes after
all else, under the colour that its parent hands down. -/
theorem write_addedLast {child root root' : Node} (h : AddedLast child root root') :
    ∀ color, ∃ inner, ∀ body : Body,
      body.write options color root' = (body.write options color root).write options inner child := by
  induction h with
  | here h attrs children =>
    intro color
    exact ⟨_, fun body => write_element_concat h attrs children child color body⟩
  | last h attrs before _ ih =>
    intro color
    obtain ⟨inner, hinner⟩ := ih ((readableColor? options (.element _ attrs before)).or color)
    refine ⟨inner, fun body => ?_⟩
    rw [write_element_concat h, write_element_concat h, hinner]

/-- **A listing only grows.** One more child at the end of a tree, whatever it holds, adds to the
end of the definitions and to the end of the text. The definitions and the text so far stay as they
are, and so do the names of the colours. -/
theorem convertNode_addedLast (options : Options) {child root root' : Node}
    (h : AddedLast child root root') :
    let body := (transcribe options root).body
    let body' := (transcribe options root').body
    (convertNode options root = envelope options body ∧
      convertNode options root' = envelope options body') ∧
    (∃ later, body'.registry.definitions = body.registry.definitions ++ later) ∧
    (∃ later, body'.text = body.text ++ later) ∧
    ∀ color name, body.registry.get? color = some name → body'.registry.get? color = some name := by
  intro body body'
  have hextends : body.Extends body' := by
    obtain ⟨inner, hinner⟩ := @write_addedLast options _ _ _ h none
    have hbody' : body' = body.write options inner child := by
      simp only [body, body', body_transcribe]
      exact hinner .empty
    rw [hbody']
    exact extends_write child inner body
  exact ⟨⟨rfl, rfl⟩, Registry.definitions_of_isPrefix hextends.entries, hextends.text,
    fun color name => Registry.get?_of_isPrefix hextends.entries⟩

/-- A block in another colour, at the end of an element that is two last children deep. -/
theorem convertNode_addedLast_nested :
    let child := Node.element "p" [⟨"style", "color: rgb(254, 0, 0)"⟩] [.text "c"]
    let root := Node.element "p" [⟨"style", "color: rgb(255, 0, 0)"⟩]
      [.text "a", .element "i" [] [.element "b" [] [.text "b"]]]
    let root' := Node.element "p" [⟨"style", "color: rgb(255, 0, 0)"⟩]
      [.text "a", .element "i" [] [.element "b" [] [.text "b", child]]]
    let body := (transcribe {} root).body
    let body' := (transcribe {} root').body
    AddedLast child root root' ∧
      (∃ later, body'.registry.definitions = body.registry.definitions ++ later) ∧
      (∃ later, body'.text = body.text ++ later) ∧
      ∀ name, body.registry.get? ⟨255, 0, 0⟩ = some name →
        body'.registry.get? ⟨255, 0, 0⟩ = some name := by
  intro child root root' body body'
  have h : AddedLast child root root' :=
    .last (by decide) _ [.text "a"] (.last (by decide) _ [] (.here (by decide) _ [.text "b"]))
  obtain ⟨-, hdefinitions, htext, hnames⟩ := convertNode_addedLast {} h
  exact ⟨h, hdefinitions, htext, hnames ⟨255, 0, 0⟩⟩

end Listing

end TexListing
