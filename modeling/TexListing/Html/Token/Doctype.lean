import TexListing.Html.Source
import TexListing.Html.Token
import TexListing.Text.Split

/-!
# Document types

* `doctype`: a document type declaration.
* `Doctype.isLegacy`: whether the declaration asks for the rules of old documents. They differ in
  one point that matters here: a table does not end a paragraph.
-/

namespace TexListing.Html

/-- An identifier within quotes. A declaration that ends before the quotes do is faulty. -/
def quotedId (quote : Char) (s : List Char) : String × Bool × List Char :=
  let (id, rest) := s.span fun c => c != quote && c != '>'
  let id := String.ofList (id.map replaceNul)
  match rest with
  | c :: rest => if c = quote then (id, true, rest) else (id, false, c :: rest)
  | [] => (id, false, [])

/-- The text after the end of the declaration. -/
def afterDeclaration (s : List Char) : List Char :=
  (s.dropWhile (· != '>')).drop 1

/-- The declaration from its end on, when there should be nothing else; `strict` if anything else
makes it faulty. -/
def closeDoctype (strict : Bool) (d : Doctype) (s : List Char) : Doctype × List Char :=
  match s.dropWhile isSpace with
  | '>' :: rest => (d, rest)
  | [] => ({ d with faulty := true }, [])
  | rest => ({ d with faulty := d.faulty || strict }, afterDeclaration rest)

/-- The declaration from the system identifier on, which is in the quotes that come first. -/
def systemDoctype (required : Bool) (d : Doctype) (s : List Char) : Doctype × List Char :=
  match s.dropWhile isSpace with
  | '\x22' :: rest => inQuotes '\x22' rest
  | '\x27' :: rest => inQuotes '\x27' rest
  | '>' :: rest => ({ d with faulty := d.faulty || required }, rest)
  | rest => ({ d with faulty := true }, afterDeclaration rest)
where
  /-- The identifier and what follows. -/
  inQuotes (quote : Char) (s : List Char) : Doctype × List Char :=
    let (id, complete, rest) := quotedId quote s
    let d := { d with systemId := some id }
    if complete then closeDoctype false d rest
    else ({ d with faulty := true }, afterDeclaration rest)

/-- The declaration from the public identifier on. -/
def publicDoctype (d : Doctype) (s : List Char) : Doctype × List Char :=
  match s.dropWhile isSpace with
  | '\x22' :: rest => inQuotes '\x22' rest
  | '\x27' :: rest => inQuotes '\x27' rest
  | rest => ({ d with faulty := true }, afterDeclaration rest)
where
  /-- The identifier and what follows. -/
  inQuotes (quote : Char) (s : List Char) : Doctype × List Char :=
    let (id, complete, rest) := quotedId quote s
    let d := { d with publicId := some id }
    if complete then systemDoctype false d rest
    else ({ d with faulty := true }, afterDeclaration rest)

/-- A document type declaration, where the text begins after its keyword, and the text after it. -/
def doctype (s : List Char) : Doctype × List Char :=
  match s.dropWhile isSpace with
  | '>' :: rest => (⟨none, none, none, true⟩, rest)
  | [] => (⟨none, none, none, true⟩, [])
  | s =>
    let (name, rest) := s.span fun c => !(isSpace c || c == '>')
    let d : Doctype := ⟨some (lowerName name), none, none, false⟩
    let rest := rest.dropWhile isSpace
    if startsCaseless "public".toList rest then publicDoctype d (rest.drop 6)
    else if startsCaseless "system".toList rest then systemDoctype true d (rest.drop 6)
    else closeDoctype true d rest

/-- The owners of public identifiers and the texts they own that ask for the rules of old
documents. -/
def legacyTexts : List (String × List String) :=
  [("advasoft ltd", ["dtd html 3.0 aswedit + extensions"]),
   ("as", ["dtd html 3.0 aswedit + extensions"]),
   ("ietf", ["dtd html 2.0 level 1", "dtd html 2.0 level 2", "dtd html 2.0 strict level 1",
      "dtd html 2.0 strict level 2", "dtd html 2.0 strict", "dtd html 2.0", "dtd html 2.1e",
      "dtd html 3.0", "dtd html 3.2 final", "dtd html 3.2", "dtd html 3", "dtd html level 0",
      "dtd html level 1", "dtd html level 2", "dtd html level 3", "dtd html strict level 0",
      "dtd html strict level 1", "dtd html strict level 2", "dtd html strict level 3",
      "dtd html strict", "dtd html"]),
   ("metrius", ["dtd metrius presentational"]),
   ("microsoft", ["dtd internet explorer 2.0 html strict", "dtd internet explorer 2.0 html",
      "dtd internet explorer 2.0 tables", "dtd internet explorer 3.0 html strict",
      "dtd internet explorer 3.0 html", "dtd internet explorer 3.0 tables"]),
   ("netscape comm. corp.", ["dtd html", "dtd strict html"]),
   ("o'reilly and associates", ["dtd html 2.0", "dtd html extended 1.0",
      "dtd html extended relaxed 1.0"]),
   ("softquad software", ["dtd hotmetal pro 6.0::19990601::extensions to html 4.0"]),
   ("softquad", ["dtd hotmetal pro 4.0::19971010::extensions to html 4.0"]),
   ("spyglass", ["dtd html 2.0 extended"]),
   ("sq", ["dtd html 2.0 hotmetal + extensions"]),
   ("sun microsystems corp.", ["dtd hotjava html", "dtd hotjava strict html"]),
   ("w3c", ["dtd html 3 1995-03-24", "dtd html 3.2 draft", "dtd html 3.2 final", "dtd html 3.2",
      "dtd html 3.2s draft", "dtd html 4.0 frameset", "dtd html 4.0 transitional",
      "dtd html experimental 19960712", "dtd html experimental 970421", "dtd w3 html"]),
   ("w3o", ["dtd w3 html 3.0"]),
   ("webtechs", ["dtd mozilla html 2.0", "dtd mozilla html"])]

/-- The texts that ask for the rules of old documents only if there is no system identifier. -/
def legacyTextsAlone : List (String × List String) :=
  [("w3c", ["dtd html 4.01 frameset", "dtd html 4.01 transitional"])]

/-- The public identifier begins with a dash, an owner and a text that stand together in the table,
each with two slashes after it. -/
def hasLegacyText (table : List (String × List String)) (publicId : List Char) : Bool :=
  match Text.split '/' publicId with
  | ['-'] :: [] :: owner :: [] :: text :: [] :: _ :: _ =>
    table.any fun (name, texts) => name.toList == owner && texts.any (·.toList == text)
  | _ => false

/-- The public identifiers that ask for the rules of old documents as a whole, cut at slashes. -/
def legacyIds : List (List String) :=
  [["-", "", "w3o", "", "dtd w3 html strict 3.0", "", "en", "", ""],
   ["-", "w3c", "dtd html 4.0 transitional", "en"],
   ["html"]]

/-- The system identifiers that ask for the rules of old documents, cut at slashes. -/
def legacyAddresses : List (List String) :=
  [["http:", "", "www.ibm.com", "data", "dtd", "v11", "ibmxhtml1-transitional.dtd"]]

/-- The identifier is one of those in the table. -/
def isOneOf (table : List (List String)) (id : List Char) : Bool :=
  (table.map (·.map String.toList)).contains (Text.split '/' id)

/-- The declaration asks for the rules of old documents. -/
def Doctype.isLegacy (d : Doctype) : Bool :=
  let publicId := d.publicId.map (·.toList.map Char.toLower)
  let systemId := d.systemId.map (·.toList.map Char.toLower)
  d.faulty || d.name != some "html" ||
    publicId.any (fun id => isOneOf legacyIds id || hasLegacyText legacyTexts id) ||
    systemId.any (isOneOf legacyAddresses) ||
    (systemId.isNone && publicId.any (hasLegacyText legacyTextsAlone))

end TexListing.Html
