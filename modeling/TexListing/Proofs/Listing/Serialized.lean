import TexListing.Proofs.Listing.Attributes
import TexListing.Proofs.Style.Serialized

/-!
# Serialized trees

Hexadecimal colours are what a browser makes of them: the conversion of a tree that reads them is
the conversion of the serialized tree that does not.

* `Attribute.serialize`, `Node.serialize`: every style in the form that a browser gives it.
* `attrsColor?_serialize`: the attributes of an element come to the same.
* `convert_serialize`: and so do trees.
-/

namespace TexListing.Markup

open Style

/-- A style in the form that a browser gives it; any other attribute is kept. -/
def Attribute.serialize (attr : Attribute) : Attribute :=
  if attr.name.sameCaseless "style" then ⟨attr.name, serializeStyle attr.value⟩ else attr

theorem Attribute.name_serialize (attr : Attribute) : attr.serialize.name = attr.name := by
  unfold serialize
  split <;> rfl

/-- The tree with every style in the form that a browser gives it. -/
def Node.serialize (node : Node) : Node :=
  node.mapAttrs (List.map Attribute.serialize)

end TexListing.Markup

namespace TexListing.Listing

open Text Markup Style

theorem style?_serialize (attrs : List Attribute) :
    style? (attrs.map Attribute.serialize) = (style? attrs).map serializeStyle := by
  have hname : (fun attr : Attribute => attr.name.sameCaseless "style") ∘ Attribute.serialize =
      fun attr => attr.name.sameCaseless "style" := by
    funext attr
    rw [Function.comp_apply, Attribute.name_serialize]
  rw [style?, style?, List.find?_map, hname, Option.map_map, Option.map_map]
  refine Option.map_congr fun attr hattr => ?_
  have hstyle : attr.name.sameCaseless "style" = true := by simpa using List.find?_some hattr
  rw [Function.comp_apply, Function.comp_apply, Attribute.serialize, if_pos hstyle]

/-- **Serialized attributes** come to what the attributes come to with hexadecimal colours. -/
theorem attrsColor?_serialize (attrs : List Attribute) :
    attrsColor? .cssom attrs = attrsColor? .strict (attrs.map Attribute.serialize) := by
  rw [attrsColor?, attrsColor?, style?_serialize]
  cases style? attrs with
  | none => rfl
  | some style =>
    rw [Option.map_some, Option.bind_some, Option.bind_some, styleColor?_serializeStyle]

/-- No style among attributes declares a colour that starts with a number sign. -/
def HashFree (attrs : List Attribute) : Prop :=
  ∀ attr ∈ attrs, attr.name.sameCaseless "style" = true →
    ∀ value ∈ colorDeclarations attr.value, value.toList.head? ≠ some '#'

theorem attrsColor?_syntax {attrs : List Attribute} (h : HashFree attrs) :
    attrsColor? .cssom attrs = attrsColor? .strict attrs := by
  rw [attrsColor?, attrsColor?]
  refine Option.bind_congr fun style hstyle => styleColor?_syntax fun value hvalue => ?_
  obtain ⟨attr, hfound, rfl⟩ := Option.map_eq_some_iff.1 hstyle
  have hname : attr.name.sameCaseless "style" = true := by simpa using List.find?_some hfound
  have hdeclared : String.ofList value ∈ colorDeclarations attr.value :=
    List.mem_map_of_mem hvalue
  simpa using h attr (List.mem_of_find?_eq_some hfound) hname _ hdeclared

/-- **Hexadecimal colours are what a browser makes of them.** With them a tree gives the conversion,
listing and records, that the serialized tree gives without them. So both ways of reading agree on
every tree that declares no colour starting with a number sign, and a value that starts with one and
is no hexadecimal colour is the same error in both. -/
theorem convert_serialize (options : Options) :
    (∀ root, convert { options with colorSyntax := .cssom } root =
      convert { options with colorSyntax := .strict } root.serialize) ∧
    (∀ root : Node, (∀ node ∈ root.descendants, HashFree node.attrs) →
      convert { options with colorSyntax := .cssom } root =
        convert { options with colorSyntax := .strict } root) ∧
    ∀ value : String, (trim value.toList).head? = some '#' →
      hexColor? (trim value.toList) = none →
      parseColor .cssom value = .error (.unsupported (String.ofList (trim value.toList))) ∧
        parseColor .strict value = .error (.unsupported (String.ofList (trim value.toList))) := by
  refine ⟨fun root => ?_, fun root h => ?_, fun value hhash hnone => ?_⟩
  · exact convert_alike rfl rfl (Node.alike_mapAttrs attrsColor?_serialize root)
  · refine convert_alike rfl rfl (Node.Alike.refl fun node hnode => ?_)
    exact attrsColor?_syntax (h node hnode)
  · obtain ⟨digits, hdigits⟩ := List.head?_eq_some_iff.1 hhash
    rw [hdigits] at hnone
    rw [parseColor, parseColor, parseValue, parseValue, hdigits, parseTrimmed_cssom_hash, hnone,
      parseTrimmed_strict_hash]
    exact ⟨rfl, rfl⟩

/-- A tree without a number sign in its styles, and a value with one digit too few. -/
theorem convert_serialize_plain :
    let root := Node.element "p" [⟨"class", "#a"⟩, ⟨"style", "color: rgb(1, 2, 3); width: #b"⟩]
      [.text "x"]
    convert { colorSyntax := .cssom } root = convert {} root ∧
      parseColor .cssom " #12" = .error (.unsupported "#12") ∧
      parseColor .strict " #12" = .error (.unsupported "#12") := by
  intro root
  obtain ⟨-, hplain, hmalformed⟩ := convert_serialize {}
  refine ⟨hplain root ?_, hmalformed " #12" (by decide) (by decide)⟩
  rw [descendants_eq]
  unfold HashFree
  decide

end TexListing.Listing
