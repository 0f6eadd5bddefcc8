import TexListing.Proofs.Color.Hexadecimal
import TexListing.Proofs.Style.ImportantMark
import TexListing.Proofs.Style.RgbFunction

/-!
# Serialized styles

A browser writes a hexadecimal colour of a style as `rgb(r, g, b)` before anyone reads the style.
A style read with hexadecimal colours comes to what its serialized form comes to without them.

* `serializeDeclaration`, `serializeStyle`: the declarations of a style, with the hexadecimal colours
  written as `rgb(r, g, b)`.
* `colorValues_serializeStyle`: the declared values are serialized one by one.
* `parseValue_serializeValue`: a serialized value is read as the value is read with hexadecimal
  colours.
* `styleColor?_serializeStyle`: so is a serialized style.
-/

namespace TexListing.Style

open Text

/-! ## Declared values -/

theorem trimmed_stripImportant {value : List Char} (h : Trimmed value) :
    Trimmed (stripImportant value) := by
  unfold stripImportant
  simp only
  split
  · exact trimmed_trimEnd (List.take_prefix _ value) h.start
  · exact h

/-- A declared value is trimmed. -/
theorem trimmed_of_declaredColor? {declaration value : List Char}
    (h : declaredColor? declaration = some value) : Trimmed value := by
  unfold declaredColor? at h
  split at h
  · simp at h
  · split at h
    · rw [Option.some.injEq] at h
      rw [← h]
      exact trimmed_stripImportant (trimmed_trim _)
    · simp at h

theorem trimmed_of_mem_colorValues {style value : List Char} (h : value ∈ colorValues style) :
    Trimmed value := by
  obtain ⟨declaration, -, hdeclared⟩ := List.mem_filterMap.1 h
  exact trimmed_of_declaredColor? hdeclared

/-- A value that ends in no `t` has no mark at its end. -/
theorem stripImportant_eq_self {value : List Char} {c : Char} (hlast : value.getLast? = some c)
    (hc : c.toLower ≠ 't') : stripImportant value = value := by
  refine stripImportant_eq_of_not_marked ?_
  rintro ⟨base, mark, hmark, rfl⟩
  have hend : (foldCase mark).getLast? = some 't' := by
    rw [hmark]
    rfl
  rw [foldCase, List.getLast?_map, Option.map_eq_some_iff] at hend
  obtain ⟨d, hd, hdt⟩ := hend
  rw [List.getLast?_append, hd, Option.some_or, Option.some.injEq] at hlast
  exact hc (hlast ▸ hdt)

/-! ## Serialization -/

/-- A value in the form that a browser gives it. -/
def serializeValue (value : List Char) : List Char :=
  match hexColor? value with
  | some color => rgbFunction color
  | none => value

/-- A declaration of a hexadecimal colour in the form that a browser gives it; any other is kept. -/
def serializeDeclaration (declaration : List Char) : List Char :=
  match (declaredColor? declaration).bind hexColor? with
  | some color => "color: ".toList ++ rgbFunction color
  | none => declaration

/-- A style in which each declaration of a hexadecimal colour has the form that a browser gives
it. -/
def serializeStyle (style : String) : String :=
  String.ofList (join ';' ((split ';' style.toList).map serializeDeclaration))

theorem declaredColor?_rgbFunction (color : Rgb) :
    declaredColor? ("color: ".toList ++ rgbFunction color) = some (rgbFunction color) := by
  have hparts : "color: ".toList ++ rgbFunction color =
      ['c', 'o', 'l', 'o', 'r'] ++ ':' :: ' ' :: rgbFunction color := rfl
  have hproperty : sameCaseless (trim ['c', 'o', 'l', 'o', 'r']) ['c', 'o', 'l', 'o', 'r'] = true :=
    by decide
  rw [hparts, declaredColor?_append_cons (by decide), if_pos hproperty, trim_blank_cons rfl,
    trim_eq_self (trimmed_rgbFunction color),
    stripImportant_eq_self (getLast?_rgbFunction color) (by decide)]

/-- The value of a serialized declaration is the serialized value. -/
theorem declaredColor?_serializeDeclaration (declaration : List Char) :
    declaredColor? (serializeDeclaration declaration) =
      (declaredColor? declaration).map serializeValue := by
  unfold serializeDeclaration
  split
  · next color h =>
    obtain ⟨value, hvalue, hcolor⟩ := Option.bind_eq_some_iff.1 h
    rw [declaredColor?_rgbFunction, hvalue, Option.map_some, serializeValue, hcolor]
  · next h =>
    cases hvalue : declaredColor? declaration with
    | none => rfl
    | some value =>
      rw [hvalue, Option.bind_some] at h
      rw [Option.map_some, serializeValue, h]

theorem notMem_serializeDeclaration {declaration : List Char} (h : ';' ∉ declaration) :
    ';' ∉ serializeDeclaration declaration := by
  unfold serializeDeclaration
  split
  · next color _ =>
    have hchannels := @notMem_rgbChannels ';' rfl (by decide) (by decide) color
    rw [rgbFunction, List.mem_append, not_or]
    refine ⟨by decide, ?_⟩
    simp only [List.mem_cons, List.mem_append, hchannels, List.not_mem_nil, or_false, false_or]
    decide
  · exact h

/-- **The declared values are serialized one by one.** -/
theorem colorValues_serializeStyle (style : String) :
    colorValues (serializeStyle style).toList =
      (colorValues style.toList).map serializeValue := by
  have hsplit : split ';' (serializeStyle style).toList =
      (split ';' style.toList).map serializeDeclaration := by
    rw [serializeStyle, String.toList_ofList, split_join]
    · simpa using split_ne_nil ';' style.toList
    · intro piece hpiece
      obtain ⟨declaration, hdeclaration, rfl⟩ := List.mem_map.1 hpiece
      exact notMem_serializeDeclaration (notMem_of_mem_split hdeclaration)
  rw [colorValues, hsplit, colorValues, List.filterMap_map, List.map_filterMap]
  congr 1
  funext declaration
  exact declaredColor?_serializeDeclaration declaration

/-! ## Reading -/

/-- A value that starts with a number sign is in no notation but the hexadecimal. -/
theorem parseTrimmed_strict_hash (digits : List Char) :
    parseTrimmed .strict ('#' :: digits) = .error (.unsupported (String.ofList ('#' :: digits))) := by
  have hnone : rgbArguments? ('#' :: digits) = none := by
    unfold rgbArguments?
    split
    · next h =>
      rw [if_neg]
      simp only [List.cons.injEq] at h
      rw [← h.1]
      simp [foldCase]
    · rfl
  rw [parseTrimmed, if_neg (by simp), hnone]

theorem parseTrimmed_cssom_hash (digits : List Char) :
    parseTrimmed .cssom ('#' :: digits) =
      match hexColor? ('#' :: digits) with
      | some color => .ok color
      | none => .error (.unsupported (String.ofList ('#' :: digits))) := by
  rw [parseTrimmed, if_pos ⟨rfl, rfl⟩]
  cases hcolor : hexColor? ('#' :: digits) <;> simp only [ofHexDigits?_eq, hcolor]

/-- The two ways of reading differ at most in values that start with a number sign. -/
theorem parseTrimmed_syntax {value : List Char} (h : value.head? ≠ some '#') :
    parseTrimmed .cssom value = parseTrimmed .strict value := by
  rw [parseTrimmed, parseTrimmed, if_neg fun hc => h hc.2, if_neg fun hc => h hc.2]

/-- **A serialized value is read as the value is read with hexadecimal colours.** -/
theorem parseValue_serializeValue {value : List Char} (h : Trimmed value) :
    parseValue .strict (serializeValue value) = parseValue .cssom value := by
  rw [parseValue, parseValue, trim_eq_self h, serializeValue]
  by_cases hhash : value.head? = some '#'
  · obtain ⟨digits, rfl⟩ := List.head?_eq_some_iff.1 hhash
    rw [parseTrimmed_cssom_hash]
    cases hexColor? ('#' :: digits) with
    | some color =>
      simp only
      rw [trim_eq_self (trimmed_rgbFunction color), parseTrimmed_rgbFunction]
    | none =>
      simp only
      rw [trim_eq_self h, parseTrimmed_strict_hash]
  · have hnone : hexColor? value = none := by
      unfold hexColor?
      split
      · simp at hhash
      · rfl
    rw [hnone]
    simp only
    rw [trim_eq_self h, parseTrimmed_syntax hhash]

/-- The value that counts is found at the same place, if every value is read the same. -/
theorem map_decidingValue? {colorSyntax colorSyntax' : ColorSyntax} {values : List (List Char)}
    {f : List Char → List Char}
    (h : ∀ value ∈ values, parseValue colorSyntax' (f value) = parseValue colorSyntax value) :
    (decidingValue? colorSyntax' (values.map f)).map (parseValue colorSyntax') =
      (decidingValue? colorSyntax values).map (parseValue colorSyntax) := by
  have hfind : (values.map f).reverse.find? (fun value => (parseValue colorSyntax' value).isOk) =
      (values.reverse.find? fun value => (parseValue colorSyntax value).isOk).map f := by
    rw [← List.map_reverse, List.find?_map, ← List.head?_filter, ← List.head?_filter]
    congr 2
    refine List.filter_congr fun value hvalue => ?_
    rw [Function.comp_apply, h value (List.mem_reverse.1 hvalue)]
  have hmem : ∀ value ∈ decidingValue? colorSyntax values, value ∈ values := by
    intro value hvalue
    rw [decidingValue?, Option.mem_def, Option.or_eq_some_iff] at hvalue
    rcases hvalue with hfound | ⟨-, hlast⟩
    · exact List.mem_reverse.1 (List.mem_of_find?_eq_some hfound)
    · exact List.mem_of_getLast? hlast
  have hdeciding : decidingValue? colorSyntax' (values.map f) =
      (decidingValue? colorSyntax values).map f := by
    rw [decidingValue?, hfind, List.getLast?_map, ← Option.map_or, ← decidingValue?]
  rw [hdeciding, Option.map_map]
  exact Option.map_congr fun value hvalue => h value (hmem value hvalue)

/-- **A serialized style comes to what the style comes to with hexadecimal colours.** -/
theorem styleColor?_serializeStyle (style : String) :
    styleColor? .strict (serializeStyle style) = styleColor? .cssom style := by
  rw [styleColor?, colorValues_serializeStyle, styleColor?]
  exact map_decidingValue? fun value hvalue =>
    parseValue_serializeValue (trimmed_of_mem_colorValues hvalue)

/-- The mark goes with the value it stands by, and a value with a digit too few is kept. -/
example : serializeStyle "width: #123; Color : #fF8000 !important;color: #12" =
    "width: #123;color: rgb(255, 128, 0);color: #12" := by decide

/-- Without a value that starts with a number sign, both ways of reading a style come to the
same. -/
theorem styleColor?_syntax {style : String}
    (h : ∀ value ∈ colorValues style.toList, value.head? ≠ some '#') :
    styleColor? .cssom style = styleColor? .strict style := by
  have hsame := @map_decidingValue? .strict .cssom (colorValues style.toList) id fun value hvalue => by
    have htrim := trim_eq_self (trimmed_of_mem_colorValues hvalue)
    rw [id, parseValue, parseValue, htrim]
    exact parseTrimmed_syntax (h value hvalue)
  rwa [List.map_id] at hsame

end TexListing.Style
