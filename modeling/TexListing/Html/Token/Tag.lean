import TexListing.Html.Reference
import TexListing.Html.Token

/-!
# Reading tags

* `attributesFrom?`: the attributes of a tag, up to its end.
* `tag?`: a tag from its name on.

A tag that the document breaks off is none at all.
-/

namespace TexListing.Html

open Markup

/-- The character can stand in the name of a tag. -/
def inTagName (c : Char) : Bool :=
  !(isSpace c || c == '/' || c == '>')

/-- The character can stand in the name of an attribute, after the first. -/
def inAttributeName (c : Char) : Bool :=
  inTagName c && c != '='

/-- The value up to the closing quote, and the text after it. None if the quotes are not closed. -/
def quotedValue? (quote : Char) (s : List Char) : Option (String × List Char) :=
  match s.dropWhile (· != quote) with
  | _ :: rest => some (decodeValue (s.takeWhile (· != quote)), rest)
  | [] => none

/-- The value of an attribute, where the text begins after the name, and the text after it. Without
an equals sign the value is empty. -/
def attributeValue? (s : List Char) : Option (String × List Char) :=
  match s.dropWhile isSpace with
  | '=' :: rest =>
    match rest.dropWhile isSpace with
    | '\x22' :: rest => quotedValue? '\x22' rest
    | '\x27' :: rest => quotedValue? '\x27' rest
    | rest =>
      some (decodeValue (rest.takeWhile inValue), rest.dropWhile inValue)
  | rest => some ("", rest)
where
  /-- The character can stand in a value without quotes. -/
  inValue (c : Char) : Bool :=
    !(isSpace c || c == '>')

theorem length_dropWhile_le (p : Char → Bool) (s : List Char) :
    (s.dropWhile p).length ≤ s.length :=
  (List.dropWhile_suffix p).length_le

theorem length_of_quotedValue? {quote : Char} {s rest : List Char} {value : String}
    (h : quotedValue? quote s = some (value, rest)) : rest.length ≤ s.length := by
  have bound := length_dropWhile_le (· != quote) s
  unfold quotedValue? at h
  split at h
  · next tail found =>
    simp only [Option.some.injEq, Prod.mk.injEq] at h
    rw [found, List.length_cons] at bound
    rw [← h.2]
    omega
  · cases h

/-- Reading a value leaves no more than there was. -/
theorem length_of_attributeValue? {s rest : List Char} {value : String}
    (h : attributeValue? s = some (value, rest)) : rest.length ≤ s.length := by
  have bound := length_dropWhile_le isSpace s
  unfold attributeValue? at h
  split at h
  · next after found =>
    rw [found, List.length_cons] at bound
    have inner := length_dropWhile_le isSpace after
    split at h
    · next opened =>
      have := length_of_quotedValue? h
      rw [opened, List.length_cons] at inner
      omega
    · next opened =>
      have := length_of_quotedValue? h
      rw [opened, List.length_cons] at inner
      omega
    · simp only [Option.some.injEq, Prod.mk.injEq] at h
      have := length_dropWhile_le attributeValue?.inValue (after.dropWhile isSpace)
      rw [← h.2]
      omega
  · simp only [Option.some.injEq, Prod.mk.injEq] at h
    rw [← h.2]
    exact bound

/-- The attributes up to the end of the tag, whether a slash ends it, and the text after the tag. Of
attributes of one name, the first counts. What is done is in reverse. -/
def attributesFrom? (done : List Attribute) (s : List Char) :
    Option (List Attribute × Bool × List Char) :=
  match _found : s.dropWhile isSpace with
  | [] => none
  | '>' :: rest => some (done.reverse, false, rest)
  | '/' :: '>' :: rest => some (done.reverse, true, rest)
  | '/' :: rest => attributesFrom? done rest
  | c :: more =>
    let name := lowerName (c :: more.takeWhile inAttributeName)
    match _valued : attributeValue? (more.dropWhile inAttributeName) with
    | none => none
    | some (value, rest) =>
      attributesFrom? (if done.any (·.name == name) then done else ⟨name, value⟩ :: done) rest
termination_by s.length
decreasing_by
  all_goals
    have bound := length_dropWhile_le isSpace s
    rw [_found, List.length_cons] at bound
  · omega
  · have := length_of_attributeValue? _valued
    have := length_dropWhile_le inAttributeName more
    omega

/-- A tag, where the text begins with its name, and the text after the tag. -/
def tag? (s : List Char) : Option (Tag × List Char) :=
  match attributesFrom? [] (s.dropWhile inTagName) with
  | none => none
  | some (attrs, selfClosing, rest) =>
    some (⟨lowerName (s.takeWhile inTagName), attrs, selfClosing⟩, rest)

end TexListing.Html
