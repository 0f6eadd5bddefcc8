import TexListing.Proofs.Listing.Walk

/-!
# The listing by recursion on the tree

The text of a listing and the registry of its colours, written straight from the tree. The walk of
a conversion collects pieces first and decides by them; here every decision is made by the text
that has been written so far.

* `Body.write`: the body after a tree, by structural recursion.
* `text_ofPieces_eq_empty`: the text is empty exactly if there are no pieces.
* `read_body`: a tree that is read gives the body that is written.
* `convertNode_eq_write`: a listing is what the recursion writes, and so is what the walk makes of
  any pending trees.
-/

namespace TexListing.Listing

open Latex Markup Style

variable {options : Options}

/-! ## Writing -/

/-- The body with one more line break. -/
def Body.endLine (body : Body) : Body :=
  ⟨body.registry, body.text ++ lineBreak⟩

/-- The body with one more text. A colour is named by the registry as it stands then. No characters
leave nothing, not even a name. -/
def Body.writeText (body : Body) (content : String) (color : Option Rgb) : Body :=
  if content = "" then body
  else
    match color with
    | none => ⟨body.registry, body.text ++ escape content⟩
    | some color =>
      let (name, registry) := body.registry.nameFor color
      ⟨registry, body.text ++
        ("\\textcolor\x7b" ++ name ++ "\x7d\x7b" ++ escape content ++ "\x7d")⟩

/-- The body after a tree, with the colour around the tree. -/
def Body.write (options : Options) (color : Option Rgb) (body : Body) : Node → Body
  | .text content => body.writeText content color
  | .element tag attrs children =>
    if endsLine tag then body.endLine
    else
      let inner := (readableColor? options (.element tag attrs children)).or color
      if startsLine options tag ∧ body.text ≠ "" then writeAll inner body.endLine children
      else writeAll inner body children
where
  /-- The body after trees, which have the same colour around them. -/
  writeAll (color : Option Rgb) (body : Body) : List Node → Body
    | [] => body
    | node :: rest => writeAll color (Body.write options color body node) rest

theorem writeAll_eq_foldl (color : Option Rgb) (nodes : List Node) :
    ∀ body, Body.write.writeAll options color body nodes =
      nodes.foldl (Body.write options color) body := by
  induction nodes with
  | nil => intro body; rfl
  | cons node rest ih => intro body; rw [Body.write.writeAll, ih]; rfl

theorem write_element (color : Option Rgb) (body : Body) (tag : String) (attrs : List Attribute)
    (children : List Node) :
    body.write options color (.element tag attrs children) =
      if endsLine tag = true then body.endLine
      else children.foldl
        (Body.write options ((readableColor? options (.element tag attrs children)).or color))
        (if startsLine options tag ∧ body.text ≠ "" then body.endLine else body) := by
  rw [Body.write]
  simp only [writeAll_eq_foldl]
  split
  · rfl
  · split <;> rfl

/-! ## The text and the pieces -/

theorem escapeChar_ne_nil (c : Char) : escapeChar c ≠ [] := by
  unfold escapeChar
  split <;> simp

theorem escape_ne_empty {content : String} (h : content ≠ "") : escape content ≠ "" := by
  intro he
  have hl : escapeChars content.toList = [] := by simpa [escape] using congrArg String.toList he
  rw [escapeChars, List.flatMap_eq_nil_iff] at hl
  obtain ⟨c, rest, hc⟩ := List.exists_cons_of_ne_nil (mt String.toList_eq_nil_iff.1 h)
  exact escapeChar_ne_nil c (hl c (by simp [hc]))

theorem text_add_ne_empty (body : Body) {piece : Piece} (h : Solid [piece]) :
    (body.add piece).text ≠ "" := by
  rcases piece with - | ⟨content, - | color⟩
  · simp [Body.add, lineBreak]
  · have hne := escape_ne_empty (solid_run.1 h)
    simp [Body.add, hne]
  · simp [Body.add, Body.colored]

/-- **The text is empty exactly if there are no pieces.** -/
theorem text_ofPieces_eq_empty {pieces : List Piece} (h : Solid pieces) :
    (Body.ofPieces pieces.reverse).text = "" ↔ pieces = [] := by
  cases pieces with
  | nil => simp [Body.ofPieces, Body.empty]
  | cons piece rest =>
    rw [List.reverse_cons, Body.ofPieces_concat]
    simpa using text_add_ne_empty _ (solid_cons.1 h).1

/-! ## The walk writes -/

theorem body_cons {t : Transcript} {piece : Piece} {pieces : List Piece}
    (h : t.pieces = piece :: pieces) :
    t.body = (Body.ofPieces pieces.reverse).add piece := by
  rw [Transcript.body, h, List.reverse_cons, Body.ofPieces_concat]

theorem body_endLine (t : Transcript) : t.endLine.body = t.body.endLine := by
  rw [body_cons (t := t.endLine) rfl]
  rfl

theorem body_write (t : Transcript) (content : String) (color : Option Rgb) :
    (t.write content color).body = t.body.writeText content color := by
  unfold Body.writeText
  split
  · next h => rw [Transcript.body, write_pieces, if_pos h]; rfl
  · next h =>
    rw [body_cons (by rw [write_pieces, if_neg h])]
    cases color <;> rfl

theorem body_enter {t : Transcript} (h : Solid t.pieces) {tag : String} (ht : endsLine tag = false)
    (own : Option (Except ColorError Rgb)) :
    (t.enter (classify options.blockTags tag) tag own).body =
      if startsLine options tag ∧ t.body.text ≠ "" then t.body.endLine else t.body := by
  have htext : t.body.text ≠ "" ↔ t.pieces ≠ [] := not_congr (text_ofPieces_eq_empty h)
  have hp := @enter_pieces options t tag ht own
  simp only [htext]
  split at hp
  · next hc => rw [if_pos hc, body_cons hp]; rfl
  · next hc => rw [if_neg hc, Transcript.body, hp]; rfl

/-- **A tree that is read gives the body that is written**, after any transcript. -/
theorem read_body (node : Node) :
    ∀ (color : Option Rgb) (t : Transcript), Solid t.pieces →
      (t.read options color node).body = t.body.write options color node := by
  induction node using Node.induction with
  | text content => intro color t _; rw [read_text, Body.write]; exact body_write t content color
  | element tag attrs children ih =>
    intro color t h
    rw [read_element, innerColor_eq, write_element]
    by_cases ht : endsLine tag = true
    · rw [if_pos (classify_eq_lineBreak.2 ht), if_pos ht]; exact body_endLine t
    · have hf : endsLine tag = false := by simpa using ht
      rw [if_neg (mt classify_eq_lineBreak.1 ht), if_neg ht,
        foldl_in_step (P := fun t => Solid t.pieces) (h := Transcript.body) children
          (fun n _ t h => read_solid n _ t h) (fun n hn t h => ih n hn _ t h) _ (h.enter hf _),
        body_enter h hf]

/-- Pending trees are written one after the other, each under its own colour. -/
theorem body_transcribeFrom (frames : List (Node × Option Rgb)) :
    (transcribeFrom options .empty frames).body =
      frames.foldl (fun body frame => body.write options frame.2 frame.1) .empty := by
  rw [transcribeFrom_eq]
  exact foldl_in_step (P := fun t => Solid t.pieces) frames
    (fun frame _ t h => read_solid frame.1 frame.2 t h)
    (fun frame _ t h => read_body frame.1 frame.2 t h) .empty solid_empty

/-- The body of a tree is what the recursion writes. -/
theorem body_transcribe (root : Node) :
    (transcribe options root).body = Body.write options none .empty root :=
  body_transcribeFrom [(root, none)]

/-- **A listing is what the recursion writes**: the definition of the environment if it is asked
for, the line that opens it, the definitions of the colours, the text and the line that closes it.
The walk writes any pending trees by the same recursion, one after the other and each under its own
colour, so that the colours within a tree are not seen by the trees after it. -/
theorem convertNode_eq_write (options : Options) :
    (∀ root, convertNode options root =
      (if options.includePreamble then environmentDefinition else "") ++ beginCode ++
        (Body.write options none .empty root).registry.definitions ++
        (Body.write options none .empty root).text ++ endCode) ∧
    ∀ frames, (transcribeFrom options .empty frames).body =
      frames.foldl (fun body frame => body.write options frame.2 frame.1) .empty := by
  refine ⟨fun root => ?_, body_transcribeFrom⟩
  have hbody : (transcribe options root).body = Body.write options none .empty root :=
    body_transcribeFrom [(root, none)]
  rw [← hbody]
  rfl

end TexListing.Listing
