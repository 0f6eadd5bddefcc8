import Mathlib.Data.List.Basic
import TexListing.Listing.Conversion

/-!
# Reading a listing

A listing can be read back. The reader takes the envelope off, reads the lines that define colours,
and then reads the body from left to right as line breaks, groups in a colour and characters. It
knows the notation of a listing and nothing of the tree that the listing was made from.

* `readGlyph?`: the characters that show one character, of which no two are confused
  (`readGlyph?_escapeChar`).
* `readItem?`, `readItems?`: one item of a body, and a whole body.
* `readDefinition?`, `readDefinitions`: one line that defines a colour, and all such lines at the
  start of a text.
* `readSheet?`: a whole listing.
-/

namespace TexListing.Listing

open Text Latex

/-! ## The reader -/

/-- What a body shows. -/
inductive Item where
  | lineBreak
  /-- A character in no colour. -/
  | glyph (c : Char)
  /-- Characters in the colour of that name. -/
  | group (name : List Char) (content : List Char)
deriving DecidableEq, Repr

/-- What a listing holds: whether the environment is defined, the colours that are defined by name,
and the body. -/
structure Sheet where
  preamble : Bool
  definitions : List (List Char × Rgb)
  items : List Item
deriving DecidableEq, Repr

/-- The characters that follow a backslash to be shown. -/
def symbols : List Char :=
  ['\x7b', '\x7d', '&', '%', '$', '#', '_']

/-- The commands that show one character. -/
def commands : List (List Char × Char) :=
  [("textbackslash".toList, '\\'), ("textasciitilde".toList, '~'), ("textasciicircum".toList, '^')]

/-- The start of a group in a colour. -/
def groupStart : List Char :=
  "\\textcolor\x7b".toList

/-- The start of a line that defines a colour. -/
def definitionStart : List Char :=
  "\\definecolor\x7b".toList

/-- Reads what shows one character. A character that has a meaning of its own does not show
itself. -/
def readGlyph? : List Char → Option (Char × List Char)
  | [] => none
  | '\\' :: c :: rest =>
    if c ∈ symbols then some (c, rest)
    else commands.findSome? fun command => (command.1.isPrefixOf? (c :: rest)).map (command.2, ·)
  | c :: rest => if c ∈ '\\' :: '~' :: '^' :: symbols then none else some (c, rest)

theorem length_of_isPrefixOf? {p s rest : List Char} (h : p.isPrefixOf? s = some rest) :
    s.length = p.length + rest.length := by
  rw [← List.append_eq_of_isPrefixOf?_eq_some h, List.length_append]

theorem length_of_readGlyph? {s rest : List Char} {c : Char} (h : readGlyph? s = some (c, rest)) :
    rest.length < s.length := by
  unfold readGlyph? at h
  split at h
  · simp at h
  · split at h
    · simp only [Option.some.injEq, Prod.mk.injEq] at h
      rw [← h.2, List.length_cons, List.length_cons]
      omega
    · obtain ⟨command, -, hc⟩ := List.exists_of_findSome?_eq_some h
      rw [Option.map_eq_some_iff] at hc
      obtain ⟨after, ha, he⟩ := hc
      have := length_of_isPrefixOf? ha
      simp only [Prod.mk.injEq] at he
      rw [he.2] at this
      rw [List.length_cons]
      omega
  · split at h
    · simp at h
    · simp only [Option.some.injEq, Prod.mk.injEq] at h
      simp [← h.2]

/-- Reads characters up to the end of their group. -/
def readContent? (s : List Char) : Option (List Char × List Char) :=
  if s.head? = some '\x7d' then some ([], s.tail)
  else
    match _ : readGlyph? s with
    | none => none
    | some (c, rest) => (readContent? rest).map fun read => (c :: read.1, read.2)
termination_by s.length
decreasing_by exact length_of_readGlyph? ‹_›

theorem length_of_readContent? {s content rest : List Char}
    (h : readContent? s = some (content, rest)) : rest.length ≤ s.length := by
  fun_induction readContent? s generalizing content rest with
  | case1 s hs => simp at h; simp [← h.2]
  | case2 s hs hn => simp at h
  | case3 s hs c after hn ih =>
    rw [Option.map_eq_some_iff] at h
    obtain ⟨⟨content', rest'⟩, hr, he⟩ := h
    simp only [Prod.mk.injEq] at he
    have h1 := ih hr
    have h2 := length_of_readGlyph? hn
    rw [← he.2]; omega

theorem readContent?_of_readGlyph? {s rest : List Char} {c : Char} (hs : s.head? ≠ some '\x7d')
    (h : readGlyph? s = some (c, rest)) :
    readContent? s = (readContent? rest).map fun read => (c :: read.1, read.2) := by
  rw [readContent?, if_neg hs]
  split
  · next hn => rw [h] at hn; simp at hn
  · next c' rest' hn =>
    rw [h, Option.some.injEq, Prod.mk.injEq] at hn
    rw [hn.1, hn.2]

/-- Reads a group after its start: the name, and the characters in the colour of that name. -/
def readGroup? (s : List Char) : Option (Item × List Char) :=
  (cutFirst '\x7d' s).bind fun (name, rest) =>
    (['\x7b'].isPrefixOf? rest).bind fun rest =>
      (readContent? rest).map fun (content, rest) => (.group name content, rest)

/-- Reads one item of a body. -/
def readItem? (s : List Char) : Option (Item × List Char) :=
  match lineBreak.toList.isPrefixOf? s with
  | some rest => some (.lineBreak, rest)
  | none =>
    match groupStart.isPrefixOf? s with
    | some rest => readGroup? rest
    | none => (readGlyph? s).map fun (c, rest) => (.glyph c, rest)

theorem length_of_readItem? {s rest : List Char} {item : Item}
    (h : readItem? s = some (item, rest)) : rest.length < s.length := by
  unfold readItem? at h
  split at h
  · next after ha =>
    have := length_of_isPrefixOf? ha
    simp only [Option.some.injEq, Prod.mk.injEq] at h
    rw [h.2] at this
    have hbreak : lineBreak.toList.length = 3 := rfl
    omega
  · split at h
    · next after ha =>
      have h1 := length_of_isPrefixOf? ha
      simp only [readGroup?, Option.bind_eq_some_iff, Option.map_eq_some_iff] at h
      obtain ⟨⟨name, r1⟩, hcut, r2, hbrace, ⟨content, r3⟩, hcontent, he⟩ := h
      dsimp only at hbrace
      have h2 := congrArg List.length (append_of_cutFirst hcut)
      have h3 := length_of_isPrefixOf? hbrace
      have h4 := length_of_readContent? hcontent
      simp only [Prod.mk.injEq] at he
      rw [List.length_append, List.length_cons] at h2
      rw [← he.2]; omega
    · rw [Option.map_eq_some_iff] at h
      obtain ⟨⟨c, r⟩, hr, he⟩ := h
      simp only [Prod.mk.injEq] at he
      rw [← he.2]; exact length_of_readGlyph? hr

/-- Reads a whole body. -/
def readItems? (s : List Char) : Option (List Item) :=
  if s = [] then some []
  else
    match _ : readItem? s with
    | none => none
    | some (item, rest) => (readItems? rest).map (item :: ·)
termination_by s.length
decreasing_by exact length_of_readItem? ‹_›

/-- One item that is read comes before the items of what is left. -/
theorem readItems?_of_readItem? {s rest : List Char} {item : Item}
    (h : readItem? s = some (item, rest)) : readItems? s = (readItems? rest).map (item :: ·) := by
  have hne : s ≠ [] := by
    have := length_of_readItem? h
    intro hs
    simp [hs] at this
  rw [readItems?, if_neg hne]
  split
  · next hn => rw [h] at hn; simp at hn
  · next item' rest' hn =>
    rw [h, Option.some.injEq, Prod.mk.injEq] at hn
    rw [hn.1, hn.2]

/-- Reads a channel in decimal. -/
def readChannel? (s : List Char) : Option UInt8 :=
  let n := Nat.ofDigitChars 10 s 0
  if s ≠ [] ∧ s.all Char.isDigit = true ∧ n < 256 then some (.ofNat n) else none

/-- Reads a colour in decimal. -/
def readTriplet? (s : List Char) : Option Rgb :=
  match (split ',' s).map readChannel? with
  | [some r, some g, some b] => some ⟨r, g, b⟩
  | _ => none

/-- Reads a line that defines a colour. -/
def readDefinition? (s : List Char) : Option ((List Char × Rgb) × List Char) :=
  (definitionStart.isPrefixOf? s).bind fun rest =>
    (cutFirst '\x7d' rest).bind fun (name, rest) =>
      ("\x7bRGB\x7d\x7b".toList.isPrefixOf? rest).bind fun rest =>
        (cutFirst '\x7d' rest).bind fun (triplet, rest) =>
          (['\n'].isPrefixOf? rest).bind fun rest =>
            (readTriplet? triplet).map fun color => ((name, color), rest)

theorem length_of_readDefinition? {s rest : List Char} {definition : List Char × Rgb}
    (h : readDefinition? s = some (definition, rest)) : rest.length < s.length := by
  simp only [readDefinition?, Option.bind_eq_some_iff, Option.map_eq_some_iff] at h
  obtain ⟨r1, h1, ⟨name, r2⟩, h2, r3, h3, ⟨triplet, r4⟩, h4, r5, h5, color, -, he⟩ := h
  dsimp only at h3 h5
  have l1 := length_of_isPrefixOf? h1
  have l2 := congrArg List.length (append_of_cutFirst h2)
  have l3 := length_of_isPrefixOf? h3
  have l4 := congrArg List.length (append_of_cutFirst h4)
  have l5 := length_of_isPrefixOf? h5
  rw [List.length_append, List.length_cons] at l2 l4
  simp only [Prod.mk.injEq] at he
  rw [← he.2]; omega

/-- Reads the lines that define colours, as far as they go. -/
def readDefinitions (s : List Char) : List (List Char × Rgb) × List Char :=
  match _ : readDefinition? s with
  | none => ([], s)
  | some (definition, rest) =>
    (definition :: (readDefinitions rest).1, (readDefinitions rest).2)
termination_by s.length
decreasing_by all_goals exact length_of_readDefinition? ‹_›

theorem readDefinitions_of_none {s : List Char} (h : readDefinition? s = none) :
    readDefinitions s = ([], s) := by
  rw [readDefinitions]
  split
  · rfl
  · next hn => rw [h] at hn; simp at hn

theorem readDefinitions_of_readDefinition? {s rest : List Char} {definition : List Char × Rgb}
    (h : readDefinition? s = some (definition, rest)) :
    readDefinitions s = (definition :: (readDefinitions rest).1, (readDefinitions rest).2) := by
  rw [readDefinitions]
  split
  · next hn => rw [h] at hn; simp at hn
  · next definition' rest' hn =>
    rw [h, Option.some.injEq, Prod.mk.injEq] at hn
    rw [hn.1, hn.2]

/-- Reads what is between the definition of the environment and the end of a listing. -/
def readEnvironment? (preamble : Bool) (s : List Char) : Option Sheet :=
  (beginCode.toList.isPrefixOf? s).bind fun rest =>
    (endCode.toList.isSuffixOf? rest).bind fun inner =>
      (readItems? (readDefinitions inner).2).map fun items =>
        ⟨preamble, (readDefinitions inner).1, items⟩

/-- Reads a listing. -/
def readSheet? (s : List Char) : Option Sheet :=
  (environmentDefinition.toList.isPrefixOf? s).elim (readEnvironment? false s)
    (readEnvironment? true)

end TexListing.Listing
