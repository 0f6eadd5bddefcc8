import TexListing.Proofs.Color.Naming
import TexListing.Proofs.Listing.Reading

/-!
# Reading back what is written

Every notation of a listing is read as what it stands for, whatever comes after it. The reader tells
notations apart by how they start: no character starts a line break, a group or a definition, and
none of these starts another.

* `readGlyph?_escapeChar`: the text of one character is read as that character.
* `readContent?_escapeChars`: an escaped text ends where its group ends.
* `readItem?_colored`: a group is read as its name and its characters.
* `readDefinition?_definition`, `readDefinitions_entries`: a definition is read as its name and its
  colour, and all definitions are read.
-/

namespace TexListing.Listing

open Text Latex

/-! ## Characters -/

theorem escapeChar_command {name : List Char} {c : Char} (h : (name, c) ∈ commands) :
    escapeChar c = '\\' :: name := by
  simp only [commands, List.mem_cons, Prod.mk.injEq, List.not_mem_nil, or_false] at h
  rcases h with ⟨rfl, rfl⟩ | ⟨rfl, rfl⟩ | ⟨rfl, rfl⟩
  · exact (by simp : "\\textbackslash".toList = '\\' :: "textbackslash".toList)
  · exact (by simp : "\\textasciitilde".toList = '\\' :: "textasciitilde".toList)
  · exact (by simp : "\\textasciicircum".toList = '\\' :: "textasciicircum".toList)

theorem escapeChar_symbol {c : Char} (h : c ∈ symbols) : escapeChar c = ['\\', c] := by
  simp only [symbols, List.mem_cons, List.not_mem_nil, or_false] at h
  rcases h with rfl | rfl | rfl | rfl | rfl | rfl | rfl <;> rfl

/-- A character without a meaning of its own shows itself. -/
theorem escapeChar_of_notMem {c : Char} (h : c ∉ '\\' :: '~' :: '^' :: symbols) :
    escapeChar c = [c] := by
  simp only [symbols, List.mem_cons, List.not_mem_nil, or_false, not_or] at h
  unfold escapeChar
  split <;> first | contradiction | rfl

theorem readGlyph?_command {name : List Char} {c : Char} (h : (name, c) ∈ commands)
    (rest : List Char) : readGlyph? ('\\' :: (name ++ rest)) = some (c, rest) := by
  simp only [commands, List.mem_cons, Prod.mk.injEq, List.not_mem_nil, or_false] at h
  rcases h with ⟨hname, rfl⟩ | ⟨hname, rfl⟩ | ⟨hname, rfl⟩ <;> simp at hname <;> rw [hname] <;>
    simp [readGlyph?, symbols, commands, List.isPrefixOf?]

/-- A character follows a backslash, or has a command with a name, or shows itself. -/
theorem escapeChar_cases (c : Char) :
    (c ∈ symbols ∧ escapeChar c = ['\\', c]) ∨
      (∃ name, (name, c) ∈ commands ∧ escapeChar c = '\\' :: name) ∨
      (c ∉ '\\' :: '~' :: '^' :: symbols ∧ escapeChar c = [c]) := by
  by_cases hc : c ∈ '\\' :: '~' :: '^' :: symbols
  · simp only [List.mem_cons] at hc
    have hcommand : ∀ name, (name, c) ∈ commands →
        ∃ name, (name, c) ∈ commands ∧ escapeChar c = '\\' :: name :=
      fun name h => ⟨name, h, escapeChar_command h⟩
    rcases hc with rfl | rfl | rfl | hc
    · exact .inr (.inl (hcommand "textbackslash".toList (by simp [commands])))
    · exact .inr (.inl (hcommand "textasciitilde".toList (by simp [commands])))
    · exact .inr (.inl (hcommand "textasciicircum".toList (by simp [commands])))
    · exact .inl ⟨hc, escapeChar_symbol hc⟩
  · exact .inr (.inr ⟨hc, escapeChar_of_notMem hc⟩)

/-- **The text of one character is read as that character**, whatever comes after it. -/
theorem readGlyph?_escapeChar (c : Char) (rest : List Char) :
    readGlyph? (escapeChar c ++ rest) = some (c, rest) := by
  rcases escapeChar_cases c with ⟨hc, he⟩ | ⟨name, hc, he⟩ | ⟨hc, he⟩ <;> rw [he, List.cons_append]
  · rw [List.cons_append, List.nil_append, readGlyph?, if_pos hc]
  · exact readGlyph?_command hc rest
  · rw [List.nil_append, readGlyph?, if_neg hc]
    intro c' rest' hcc _
    exact hc (by simp [hcc])

/-- The name of a command ends where it is complete, even if letters follow. -/
example : readGlyph? "\\textbackslashed".toList = some ('\\', ['e', 'd']) := rfl

theorem toList_lineBreak : lineBreak.toList = ['\\', '\\', '\n'] := rfl

theorem groupStart_eq :
    groupStart = ['\\', 't', 'e', 'x', 't', 'c', 'o', 'l', 'o', 'r', '\x7b'] := rfl

theorem definitionStart_eq :
    definitionStart =
      ['\\', 'd', 'e', 'f', 'i', 'n', 'e', 'c', 'o', 'l', 'o', 'r', '\x7b'] := rfl

/-- The text of a character starts no line break, no group and no definition, and ends no group. -/
theorem escapeChar_starts (c : Char) (rest : List Char) :
    lineBreak.toList.isPrefixOf? (escapeChar c ++ rest) = none ∧
      groupStart.isPrefixOf? (escapeChar c ++ rest) = none ∧
      definitionStart.isPrefixOf? (escapeChar c ++ rest) = none ∧
      (escapeChar c ++ rest).head? ≠ some '\x7d' := by
  rw [toList_lineBreak, groupStart_eq, definitionStart_eq]
  -- what starts with a backslash differs from the others in the character after it
  rcases escapeChar_cases c with ⟨hc, he⟩ | ⟨name, hc, he⟩ | ⟨hc, he⟩ <;> rw [he]
  · simp only [symbols, List.mem_cons, List.not_mem_nil, or_false] at hc
    rcases hc with rfl | rfl | rfl | rfl | rfl | rfl | rfl <;> simp [List.isPrefixOf?]
  · simp only [commands, List.mem_cons, Prod.mk.injEq, List.not_mem_nil, or_false] at hc
    rcases hc with ⟨hname, -⟩ | ⟨hname, -⟩ | ⟨hname, -⟩ <;> simp at hname <;> rw [hname] <;>
      simp [List.isPrefixOf?]
  · simp only [symbols, List.mem_cons, List.not_mem_nil, or_false, not_or] at hc
    have hne : '\\' ≠ c := Ne.symm hc.1
    simp [List.isPrefixOf?, hne, hc]

/-- **An escaped text ends where its group ends.** -/
theorem readContent?_escapeChars (s rest : List Char) :
    readContent? (escapeChars s ++ '\x7d' :: rest) = some (s, rest) := by
  induction s with
  | nil => rw [escapeChars, List.flatMap_nil, List.nil_append, readContent?]; simp
  | cons c s ih =>
    have hstart := (escapeChar_starts c (escapeChars s ++ '\x7d' :: rest)).2.2.2
    have hglyph := readGlyph?_escapeChar c (escapeChars s ++ '\x7d' :: rest)
    rw [escapeChars, List.flatMap_cons, List.append_assoc, ← escapeChars,
      readContent?_of_readGlyph? hstart hglyph, ih]
    rfl

/-! ## Items -/

theorem isPrefixOf?_append (p rest : List Char) : p.isPrefixOf? (p ++ rest) = some rest :=
  List.isPrefixOf?_eq_some_iff_append_eq.2 rfl

theorem readItem?_lineBreak (rest : List Char) :
    readItem? (lineBreak.toList ++ rest) = some (.lineBreak, rest) := by
  rw [readItem?, isPrefixOf?_append]

theorem readItem?_escapeChar (c : Char) (rest : List Char) :
    readItem? (escapeChar c ++ rest) = some (.glyph c, rest) := by
  obtain ⟨hbreak, hgroup, -, -⟩ := escapeChar_starts c rest
  rw [readItem?, hbreak]
  simp only
  rw [hgroup]
  simp only
  rw [readGlyph?_escapeChar]
  rfl

/-- The start of a group starts neither a line break nor a definition. -/
theorem groupStart_starts (rest : List Char) :
    lineBreak.toList.isPrefixOf? (groupStart ++ rest) = none ∧
      definitionStart.isPrefixOf? (groupStart ++ rest) = none := by
  rw [toList_lineBreak, groupStart_eq, definitionStart_eq]
  simp [List.isPrefixOf?]

theorem toList_colored (name content : String) :
    (Body.colored name content).toList =
      groupStart ++ (name.toList ++
        '\x7d' :: '\x7b' :: (escapeChars content.toList ++ ['\x7d'])) := by
  unfold Body.colored escape
  simp [groupStart_eq]

/-- **A group is read as its name and its characters**, if its name does not end it. -/
theorem readItem?_colored {name : String} (h : '\x7d' ∉ name.toList) (content : String)
    (rest : List Char) :
    readItem? ((Body.colored name content).toList ++ rest) =
      some (.group name.toList content.toList, rest) := by
  have hbrace := isPrefixOf?_append ['\x7b'] (escapeChars content.toList ++ '\x7d' :: rest)
  rw [List.singleton_append] at hbrace
  rw [toList_colored, List.append_assoc, readItem?, (groupStart_starts _).1]
  simp only
  rw [isPrefixOf?_append]
  simp only
  rw [readGroup?, List.append_assoc, List.cons_append, cutFirst_append_cons h]
  simp only [Option.bind_some, List.cons_append, List.append_assoc, List.nil_append]
  rw [hbrace, Option.bind_some, readContent?_escapeChars]
  rfl

theorem readItems?_escapeChars (s rest : List Char) :
    readItems? (escapeChars s ++ rest) = (readItems? rest).map (s.map .glyph ++ ·) := by
  induction s with
  | nil => simp [escapeChars]
  | cons c s ih =>
    rw [escapeChars, List.flatMap_cons, List.append_assoc, ← escapeChars,
      readItems?_of_readItem? (readItem?_escapeChar c _), ih, Option.map_map]
    rfl

/-! ## Definitions -/

/-- A name holds letters and digits only. -/
theorem notMem_of_isColorName {sep : Char} (hletter : sep.isAlpha = false)
    (hdigit : sep.isDigit = false) {name : String} (h : IsColorName name) : sep ∉ name.toList := by
  obtain ⟨word, suffix, hname, hword, hsuffix⟩ := h
  have hinword : sep ∉ word := fun hm => by simp [hword.2 _ hm] at hletter
  rw [hname, List.mem_append, not_or]
  rcases hsuffix with rfl | hordinal
  · exact ⟨hinword, List.not_mem_nil⟩
  · exact ⟨hinword, fun hm => by simp [hordinal.1 _ hm] at hdigit⟩

/-- **A channel in decimal is read as that channel.** -/
theorem readChannel?_toString (x : UInt8) :
    readChannel? (toString x.toNat).toList = some x := by
  have hdigits : (toString x.toNat).toList.all Char.isDigit = true :=
    List.all_eq_true.2 fun c hc => isDigit_of_mem_toString hc
  rw [readChannel?, ofDigitChars_toString,
    if_pos ⟨toString_toList_ne_nil _, hdigits, x.toNat_lt⟩, UInt8.ofNat_toNat]

theorem toList_triplet (color : Rgb) :
    color.triplet.toList = (toString color.r.toNat).toList ++
      ',' :: ((toString color.g.toNat).toList ++ ',' :: (toString color.b.toNat).toList) := by
  unfold Rgb.triplet
  simp

/-- **A colour in decimal is read as that colour.** -/
theorem readTriplet?_triplet (color : Rgb) : readTriplet? color.triplet.toList = some color := by
  have hcomma : ∀ n : ℕ, ',' ∉ (toString n).toList := notMem_toString rfl
  rw [toList_triplet, readTriplet?, split_append_cons (hcomma _), split_append_cons (hcomma _),
    split_of_notMem (hcomma _)]
  simp only [List.map_cons, List.map_nil, readChannel?_toString]

theorem notMem_triplet (color : Rgb) : '\x7d' ∉ color.triplet.toList := by
  have hbrace : ∀ n : ℕ, '\x7d' ∉ (toString n).toList := notMem_toString rfl
  rw [toList_triplet]
  simp only [List.mem_append, List.mem_cons, hbrace, or_false, false_or]
  decide

theorem toList_definition (e : Entry) :
    e.definition.toList = definitionStart ++ (e.name.toList ++ '\x7d' ::
      ("\x7bRGB\x7d\x7b".toList ++ (e.color.triplet.toList ++ '\x7d' :: ['\n']))) := by
  unfold Entry.definition
  simp [definitionStart_eq]

/-- **A definition is read as its name and its colour**, if the name does not end it. -/
theorem readDefinition?_definition {e : Entry} (h : '\x7d' ∉ e.name.toList) (rest : List Char) :
    readDefinition? (e.definition.toList ++ rest) = some ((e.name.toList, e.color), rest) := by
  have hline := isPrefixOf?_append ['\n'] rest
  rw [List.singleton_append] at hline
  rw [toList_definition, List.append_assoc, readDefinition?, isPrefixOf?_append, Option.bind_some,
    List.append_assoc, List.cons_append, cutFirst_append_cons h, Option.bind_some,
    List.append_assoc]
  simp only
  rw [isPrefixOf?_append, Option.bind_some, List.append_assoc, List.cons_append,
    cutFirst_append_cons (notMem_triplet e.color), Option.bind_some]
  simp only [List.cons_append, List.nil_append]
  rw [hline, Option.bind_some, readTriplet?_triplet]
  rfl

/-- **The definitions are read as far as they go**, if what comes after them starts none. -/
theorem readDefinitions_entries {entries : List Entry} (h : ∀ e ∈ entries, '\x7d' ∉ e.name.toList)
    {body : List Char} (hbody : definitionStart.isPrefixOf? body = none) :
    readDefinitions (entries.flatMap (·.definition.toList) ++ body) =
      (entries.map fun e => (e.name.toList, e.color), body) := by
  induction entries with
  | nil =>
    have hnone : readDefinition? body = none := by rw [readDefinition?, hbody]; rfl
    exact readDefinitions_of_none hnone
  | cons e entries ih =>
    have he := readDefinition?_definition (h e (by simp))
      (entries.flatMap (·.definition.toList) ++ body)
    rw [List.flatMap_cons, List.append_assoc, readDefinitions_of_readDefinition? he,
      ih fun e' he' => h e' (by simp [he'])]
    rfl

end TexListing.Listing
