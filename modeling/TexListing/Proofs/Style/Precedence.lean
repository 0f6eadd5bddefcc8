import Mathlib.Data.List.Induction
import TexListing.Proofs.Style.ImportantMark
import TexListing.Style.ColorValue

/-!
# Which declaration counts

A style comes to what the last of its colour declarations that can be read says, and if none can be
read to the error of the last one. So what two styles come to, one after the other, depends on
nothing but what each of them comes to, and a style can be taken apart at any of its semicolons.

* `deciding?`: of the outcomes of declarations, the one that counts.
* `overrule`: what two styles come to, one after the other.
* `deciding?_append`: the outcomes of two styles count as the styles do.
* `Declares`: the value that a single declaration declares, if any, by its rules.
* `styleColor?_append`, `styleColor?_intercalate`: styles one after the other.
* `styleColor?_laws`: the laws of a style together.
-/

namespace TexListing.Style

open Text

/-! ## Outcomes -/

/-- Of the outcomes of declarations, the one that counts: the last colour, or else the last error. -/
def deciding? (outcomes : List (Except ColorError Rgb)) : Option (Except ColorError Rgb) :=
  (outcomes.reverse.find? Except.isOk).or outcomes.getLast?

/-- What two styles come to, one after the other: a colour of the later one comes before one of the
earlier, and both come before an error. -/
def overrule : (earlier later : Option (Except ColorError Rgb)) → Option (Except ColorError Rgb)
  | _, some (.ok color) => some (.ok color)
  | some (.ok color), _ => some (.ok color)
  | _, some (.error e) => some (.error e)
  | earlier, none => earlier

theorem overrule_none (earlier : Option (Except ColorError Rgb)) :
    overrule earlier none = earlier := by
  rcases earlier with - | (_ | _) <;> rfl

theorem overrule_assoc (a b c : Option (Except ColorError Rgb)) :
    overrule (overrule a b) c = overrule a (overrule b c) := by
  rcases a with - | (_ | _) <;> rcases b with - | (_ | _) <;> rcases c with - | (_ | _) <;> rfl

/-- An error overrules anything but a colour. -/
theorem overrule_error {earlier : Option (Except ColorError Rgb)}
    (h : ∀ color, earlier ≠ some (.ok color)) (e : ColorError) :
    overrule earlier (some (.error e)) = some (.error e) := by
  rcases earlier with - | (_ | color)
  · rfl
  · rfl
  · exact absurd rfl (h color)

/-- **One more outcome overrules those before it.** -/
theorem deciding?_concat (outcomes : List (Except ColorError Rgb)) (last : Except ColorError Rgb) :
    deciding? (outcomes ++ [last]) = overrule (deciding? outcomes) (some last) := by
  rw [deciding?, deciding?, List.reverse_concat, List.find?_cons, List.getLast?_concat]
  cases last with
  | ok color => rfl
  | error e =>
    have hskip : Except.isOk (.error e : Except ColorError Rgb) = false := rfl
    rw [hskip]
    simp only
    cases hfind : outcomes.reverse.find? Except.isOk with
    | some outcome =>
      have hok := List.find?_some hfind
      cases outcome with
      | ok color => rfl
      | error e' => exact nomatch hok
    | none =>
      -- what comes last among the others is an error, or there are none
      rw [Option.none_or, Option.none_or, overrule_error]
      intro color hlast
      have hmem := List.mem_reverse.2 (List.mem_of_getLast? hlast)
      exact List.find?_eq_none.1 hfind _ hmem rfl

/-- **The outcomes of two styles count as the styles do.** -/
theorem deciding?_append (xs ys : List (Except ColorError Rgb)) :
    deciding? (xs ++ ys) = overrule (deciding? xs) (deciding? ys) := by
  induction ys using List.reverseRecOn with
  | nil => rw [List.append_nil]; exact (overrule_none _).symm
  | append_singleton ys y ih =>
    rw [← List.append_assoc, deciding?_concat, deciding?_concat, ih, overrule_assoc]

/-! ## Styles -/

variable {colorSyntax : ColorSyntax}

/-- A style comes to the outcome that counts among those of its declared values. -/
theorem styleColor?_eq (style : String) :
    styleColor? colorSyntax style =
      deciding? ((colorValues style.toList).map (parseValue colorSyntax)) := by
  rw [styleColor?, decidingValue?, deciding?, Option.map_or, ← List.map_reverse, List.find?_map,
    List.getLast?_map]
  rfl

theorem colorValues_append (a b : List Char) :
    colorValues (a ++ ';' :: b) = colorValues a ++ colorValues b := by
  rw [colorValues, split_append, List.filterMap_append, ← colorValues, ← colorValues]

/-- **Styles one after the other**, with a semicolon between them. -/
theorem styleColor?_append (a b : String) :
    styleColor? colorSyntax (a ++ ";" ++ b) =
      overrule (styleColor? colorSyntax a) (styleColor? colorSyntax b) := by
  have hlist : (a ++ ";" ++ b).toList = a.toList ++ ';' :: b.toList := by
    rw [String.toList_append, String.toList_append]
    simp
  rw [styleColor?_eq, hlist, colorValues_append, List.map_append, deciding?_append,
    ← styleColor?_eq, ← styleColor?_eq]

theorem deciding?_toList (outcome : Option (Except ColorError Rgb)) :
    deciding? outcome.toList = outcome := by
  rcases outcome with - | (_ | _) <;> rfl

/-- **Any number of styles**, with semicolons between them, come to the last colour among what they
come to, or else to the last error. -/
theorem styleColor?_intercalate (styles : List String) :
    styleColor? colorSyntax (String.intercalate ";" styles) =
      deciding? (styles.filterMap (styleColor? colorSyntax)) := by
  induction styles with
  | nil => rfl
  | cons style rest ih =>
    have hcons : (style :: rest).filterMap (styleColor? colorSyntax) =
        (styleColor? colorSyntax style).toList ++ rest.filterMap (styleColor? colorSyntax) := by
      rw [List.filterMap_cons]
      cases styleColor? colorSyntax style <;> rfl
    rw [hcons, deciding?_append, deciding?_toList, ← ih]
    cases rest with
    | nil =>
      rw [String.intercalate_singleton, String.intercalate_nil]
      exact (overrule_none _).symm
    | cons next rest => rw [String.intercalate_cons_cons, styleColor?_append]

/-! ## Single declarations -/

/-- The value that a single declaration declares as a colour, if any. A mark at the end is no part of
it. -/
inductive Declares : List Char → Option (List Char) → Prop
  /-- There is no colon. -/
  | nothing {declaration : List Char} (noColon : ':' ∉ declaration) : Declares declaration none
  /-- Something else than a colour is declared. -/
  | other {property value : List Char} (first : ':' ∉ property)
      (differs : sameCaseless (trim property) ['c', 'o', 'l', 'o', 'r'] = false) :
      Declares (property ++ ':' :: value) none
  /-- A colour is declared, with a mark after its value. -/
  | marked {property value base mark : List Char} (first : ':' ∉ property)
      (same : sameCaseless (trim property) ['c', 'o', 'l', 'o', 'r'] = true)
      (hvalue : trim value = base ++ mark) (hmark : IsMark mark) :
      Declares (property ++ ':' :: value) (some base)
  /-- A colour is declared, without a mark. -/
  | plain {property value : List Char} (first : ':' ∉ property)
      (same : sameCaseless (trim property) ['c', 'o', 'l', 'o', 'r'] = true)
      (unmarked : ¬ Marked (trim value)) :
      Declares (property ++ ':' :: value) (some (trim value))

/-- The rules speak of every declaration. -/
theorem exists_declares (declaration : List Char) : ∃ value, Declares declaration value := by
  by_cases hcolon : ':' ∈ declaration
  · obtain ⟨property, value, rfl, hfirst⟩ := List.eq_append_cons_of_mem hcolon
    cases hsame : sameCaseless (trim property) ['c', 'o', 'l', 'o', 'r'] with
    | false => exact ⟨none, .other hfirst hsame⟩
    | true =>
      by_cases hmarked : Marked (trim value)
      · obtain ⟨base, mark, hmark, hvalue⟩ := hmarked
        exact ⟨some base, .marked hfirst hsame hvalue hmark⟩
      · exact ⟨some (trim value), .plain hfirst hsame hmarked⟩
  · exact ⟨none, .nothing hcolon⟩

theorem parseValue_trimEnd (value : List Char) :
    parseValue colorSyntax (trimEnd value) = parseValue colorSyntax value := by
  obtain ⟨after, hafter, hvalue⟩ := exists_append_trimEnd value
  rw [parseValue, parseValue]
  conv_rhs => rw [hvalue, trim_append_blanks hafter]

/-- **What the rules say that a declaration declares** is what is read of it. -/
theorem map_declaredColor? {declaration : List Char} {value : Option (List Char)}
    (h : Declares declaration value) :
    (declaredColor? declaration).map (parseValue colorSyntax) =
      value.map (parseValue colorSyntax) := by
  cases h with
  | nothing noColon => rw [declaredColor?, cutFirst_of_notMem noColon]
  | other first differs =>
    rw [declaredColor?_append_cons first, differs]
    rfl
  | marked first same hvalue hmark =>
    rw [declaredColor?_append_cons first, if_pos same, hvalue, stripImportant_append hmark,
      Option.map_some, Option.map_some, parseValue_trimEnd]
  | plain first same unmarked =>
    rw [declaredColor?_append_cons first, if_pos same, stripImportant_eq_of_not_marked unmarked]

/-- A style without a semicolon is a single declaration. -/
theorem styleColor?_of_notMem {style : String} (h : ';' ∉ style.toList) :
    styleColor? colorSyntax style =
      (declaredColor? style.toList).map (parseValue colorSyntax) := by
  have hvalues : colorValues style.toList = (declaredColor? style.toList).toList := by
    rw [colorValues, split_of_notMem h, List.filterMap_cons]
    cases declaredColor? style.toList <;> rfl
  rw [styleColor?_eq, hvalues, ← deciding?_toList (Option.map _ _), Option.toList_map]

/-- **The laws of a style.** What two styles come to, with a semicolon between them, is told by what
each comes to. A style without a semicolon comes to what the rules say that it declares. Any number
of styles come to the last colour among what they come to, or else to the last error, or to nothing
if none declares a colour. -/
theorem styleColor?_laws (colorSyntax : ColorSyntax) :
    (∀ a b : String, styleColor? colorSyntax (a ++ ";" ++ b) =
      overrule (styleColor? colorSyntax a) (styleColor? colorSyntax b)) ∧
    (∀ style : String, ';' ∉ style.toList → ∀ result,
      styleColor? colorSyntax style = result ↔
        ∃ value, Declares style.toList value ∧
          result = value.map fun value => parseColor colorSyntax (String.ofList value)) ∧
    ∀ styles : List String, styleColor? colorSyntax (String.intercalate ";" styles) =
      deciding? (styles.filterMap (styleColor? colorSyntax)) := by
  have hparse : (fun value => parseColor colorSyntax (String.ofList value)) =
      parseValue colorSyntax := by
    funext value
    rw [parseColor, String.toList_ofList]
  refine ⟨styleColor?_append, fun style h result => ?_, styleColor?_intercalate⟩
  rw [hparse, styleColor?_of_notMem h]
  constructor
  · rintro rfl
    obtain ⟨value, hvalue⟩ := exists_declares style.toList
    exact ⟨value, hvalue, map_declaredColor? hvalue⟩
  · rintro ⟨value, hvalue, rfl⟩
    exact map_declaredColor? hvalue

/-- A property in capitals, more than one colon, a mark in letters of both cases, and after it a
style whose last declaration cannot be read. -/
theorem styleColor?_laws_marked :
    ';' ∉ "COLOR : rgb(1, 2, 3) !Important".toList ∧
      styleColor? .strict "COLOR : rgb(1, 2, 3) !Important" = some (.ok ⟨1, 2, 3⟩) ∧
      styleColor? .strict ("COLOR : rgb(1, 2, 3) !Important" ++ ";" ++ "color: a: b") =
        some (.ok ⟨1, 2, 3⟩) := by
  have hplain : ';' ∉ "COLOR : rgb(1, 2, 3) !Important".toList := by decide
  obtain ⟨hlater, hsingle, -⟩ := styleColor?_laws .strict
  have hmarked : Declares "COLOR : rgb(1, 2, 3) !Important".toList
      (some "rgb(1, 2, 3) ".toList) :=
    @Declares.marked "COLOR ".toList " rgb(1, 2, 3) !Important".toList _ "!Important".toList
      (by decide) (by decide) (by decide) (by decide)
  have hcolor : styleColor? .strict "COLOR : rgb(1, 2, 3) !Important" = some (.ok ⟨1, 2, 3⟩) :=
    (hsingle _ hplain _).2 ⟨_, hmarked, by decide⟩
  refine ⟨hplain, hcolor, ?_⟩
  rw [hlater, hcolor]
  decide

end TexListing.Style
