import TexListing.Proofs.Style.ImportantMark

/-!
# Written styles

A style is written from a list of declarations, with any blanks around their properties and values,
and a mark in letters of either case after the values of weightier ones. The values read off the
written style are those of the colour declarations in the list, whatever their characters are.

* `Declaration`: a declaration with no separator out of place and no blank around its value.
* `Layout`: the blanks and the letters that a declaration leaves to its writer.
* `writeStyle`: the written style.
* `declaredColor?_write`: what is declared in writing is what was to be declared.
* `colorDeclarations_writeStyle`: so it is in a style, and no mark is cut off within a character.
-/

namespace TexListing.Style

open Text

/-- A declaration of an inline style. -/
structure Declaration where
  property : List Char
  value : List Char
  /-- A mark comes after the value. -/
  important : Bool
  semicolon_notMem_property : ';' ∉ property
  colon_notMem_property : ':' ∉ property
  semicolon_notMem_value : ';' ∉ value
  trimmed_value : Trimmed value
  /-- The value ends in no mark of its own, unless another comes after it. -/
  not_marked : important = false → ¬ Marked value

/-- What a declaration leaves to its writer. -/
structure Layout where
  beforeProperty : List Char
  afterProperty : List Char
  beforeValue : List Char
  beforeMark : List Char
  mark : List Char
  atEnd : List Char
  blanks_beforeProperty : Blanks beforeProperty
  blanks_afterProperty : Blanks afterProperty
  blanks_beforeValue : Blanks beforeValue
  blanks_beforeMark : Blanks beforeMark
  isMark : IsMark mark
  blanks_atEnd : Blanks atEnd

namespace Declaration

/-- The declaration has the property of a colour. -/
def IsColor (d : Declaration) : Prop :=
  foldCase (trim d.property) = ['c', 'o', 'l', 'o', 'r']

instance (d : Declaration) : Decidable d.IsColor :=
  inferInstanceAs (Decidable (foldCase (trim d.property) = ['c', 'o', 'l', 'o', 'r']))

/-- The mark of a declaration, and the blanks before it. -/
def writeMark (d : Declaration) (l : Layout) : List Char :=
  if d.important then l.beforeMark ++ l.mark else []

def writeProperty (d : Declaration) (l : Layout) : List Char :=
  l.beforeProperty ++ d.property ++ l.afterProperty

def writeValue (d : Declaration) (l : Layout) : List Char :=
  l.beforeValue ++ d.value ++ d.writeMark l ++ l.atEnd

/-- The declaration in writing. -/
def write (d : Declaration) (l : Layout) : List Char :=
  d.writeProperty l ++ ':' :: d.writeValue l

end Declaration

/-- A style in writing: declarations with semicolons between them. -/
def writeStyle (declarations : List (Declaration × Layout)) : String :=
  String.ofList (join ';' (declarations.map fun d => d.1.write d.2))

/-! ## Separators -/

/-- There is nothing but letters and an exclamation mark in a mark. -/
theorem IsMark.semicolon_notMem {mark : List Char} (h : IsMark mark) : ';' ∉ mark := by
  intro hmem
  have hfold : Char.toLower ';' ∈ importantMark := by
    rw [← h]
    exact List.mem_map_of_mem hmem
  exact absurd hfold (by decide)

namespace Declaration

variable (d : Declaration) (l : Layout)

/-- The writer puts no character but blanks around the property. -/
theorem notMem_writeProperty {c : Char} (hblank : isBlank c = false) (h : c ∉ d.property) :
    c ∉ d.writeProperty l := by
  rw [writeProperty, List.mem_append, List.mem_append, not_or, not_or]
  exact ⟨⟨notMem_blanks l.blanks_beforeProperty hblank, h⟩,
    notMem_blanks l.blanks_afterProperty hblank⟩

theorem semicolon_notMem_writeMark : ';' ∉ d.writeMark l := by
  unfold writeMark
  split
  · rw [List.mem_append, not_or]
    exact ⟨notMem_blanks l.blanks_beforeMark (by decide), l.isMark.semicolon_notMem⟩
  · exact List.not_mem_nil

/-- A written declaration ends where the next semicolon is. -/
theorem semicolon_notMem_write : ';' ∉ d.write l := by
  have hblank : isBlank ';' = false := by decide
  have hproperty := d.notMem_writeProperty l hblank d.semicolon_notMem_property
  have hvalue : ';' ∉ d.writeValue l := by
    rw [writeValue, List.mem_append, List.mem_append, List.mem_append, not_or, not_or, not_or]
    exact ⟨⟨⟨notMem_blanks l.blanks_beforeValue hblank, d.semicolon_notMem_value⟩,
      d.semicolon_notMem_writeMark l⟩, notMem_blanks l.blanks_atEnd hblank⟩
  rw [write, List.mem_append, List.mem_cons, not_or, not_or]
  exact ⟨hproperty, by decide, hvalue⟩

/-! ## Single declarations -/

theorem trim_writeProperty : trim (d.writeProperty l) = trim d.property :=
  trim_blanks l.blanks_beforeProperty l.blanks_afterProperty _

/-- **The written mark comes off, and it alone.** -/
theorem stripImportant_trim_writeValue : stripImportant (trim (d.writeValue l)) = d.value := by
  unfold writeValue writeMark
  cases himportant : d.important with
  | true =>
    -- the value may end in a mark of its own, which is not looked for any more
    have hassoc : l.beforeValue ++ d.value ++ (l.beforeMark ++ l.mark) ++ l.atEnd =
        (l.beforeValue ++ d.value ++ l.beforeMark) ++ l.mark ++ l.atEnd := by
      simp only [List.append_assoc]
    rw [if_pos rfl, hassoc, stripImportant_trim l.isMark l.blanks_atEnd,
      trim_blanks l.blanks_beforeValue l.blanks_beforeMark, trim_eq_self d.trimmed_value]
  | false =>
    rw [if_neg Bool.false_ne_true, List.append_nil,
      trim_blanks l.blanks_beforeValue l.blanks_atEnd, trim_eq_self d.trimmed_value,
      stripImportant_eq_of_not_marked (d.not_marked himportant)]

/-- **What is declared in writing** is what was to be declared. -/
theorem declaredColor?_write :
    declaredColor? (d.write l) = if d.IsColor then some d.value else none := by
  have hcolon : ':' ∉ d.writeProperty l :=
    d.notMem_writeProperty l (by decide) d.colon_notMem_property
  rw [write, declaredColor?_append_cons hcolon, trim_writeProperty, stripImportant_trim_writeValue]
  exact if_congr sameCaseless_iff rfl rfl

end Declaration

/-! ## Styles -/

theorem colorValues_writeStyle (declarations : List (Declaration × Layout)) :
    colorValues (writeStyle declarations).toList =
      ((declarations.map Prod.fst).filter fun d => d.IsColor).map Declaration.value := by
  rw [writeStyle, String.toList_ofList, colorValues]
  cases declarations with
  | nil => rfl
  | cons first rest =>
    -- the empty style has one piece all the same, the others have one for each declaration
    have hpieces : ∀ piece ∈ (first :: rest).map fun d => d.1.write d.2, ';' ∉ piece := by
      intro piece hpiece
      obtain ⟨d, -, rfl⟩ := List.mem_map.1 hpiece
      exact d.1.semicolon_notMem_write d.2
    rw [split_join (by simp) hpieces, List.filterMap_map, ← List.filterMap_eq_map',
      List.filterMap_filter, List.filterMap_map]
    congr 1
    funext d
    simp [Declaration.declaredColor?_write]

/-- **A written style is read back.** The values of the colour declarations are read off it in their
order, and nothing else is. Of no value whatever is the mark cut off within a character. -/
theorem colorDeclarations_writeStyle :
    (∀ declarations : List (Declaration × Layout),
      colorDeclarations (writeStyle declarations) =
        ((declarations.map Prod.fst).filter fun d => d.IsColor).map fun d =>
          String.ofList d.value) ∧
    ∀ value : String, cutImportant? value = some (String.ofList (stripImportant value.toList)) := by
  refine ⟨fun declarations => ?_, cutImportant?_eq⟩
  rw [colorDeclarations, colorValues_writeStyle, List.map_map]
  rfl

/-- A property in capitals and a value that ends in a mark of its own, with a mark after it, and a
declaration of something else. -/
theorem colorDeclarations_writeStyle_marks :
    let color : Declaration :=
      ⟨"COLOR".toList, "é:!important".toList, true, by decide, by decide, by decide, by decide,
        nofun⟩
    let weight : Declaration :=
      ⟨"font-weight".toList, "700".toList, false, by decide, by decide, by decide, by decide,
        fun _ => by decide⟩
    let layout : Layout :=
      ⟨[], [' '], ['\u00a0'], [' '], "!Important".toList, ['\n'], by decide, by decide, by decide,
        by decide, by decide, by decide⟩
    colorDeclarations (writeStyle [(color, layout), (weight, layout)]) = ["é:!important"] ∧
      cutImportant? "é:!important !Important" = some "é:!important" := by
  intro color weight layout
  obtain ⟨hread, hcut⟩ := colorDeclarations_writeStyle
  refine ⟨?_, ?_⟩
  · rw [hread]
    decide
  · rw [hcut]
    decide

end TexListing.Style
