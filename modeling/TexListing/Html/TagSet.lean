import TexListing.Html.Dom

/-!
# Sets of tags

The groups of elements that the rules of document building speak of.
-/

namespace TexListing.Html

/-- The elements that end the search for an element to close. -/
def specialTags : List String :=
  ["address", "applet", "area", "article", "aside", "base", "basefont", "bgsound", "blockquote",
   "body", "br", "button", "caption", "center", "col", "colgroup", "dd", "details", "dir", "div",
   "dl", "dt", "embed", "fieldset", "figcaption", "figure", "footer", "form", "frame", "frameset",
   "h1", "h2", "h3", "h4", "h5", "h6", "head", "header", "hgroup", "hr", "html", "iframe", "img",
   "input", "isindex", "li", "link", "listing", "main", "marquee", "menu", "meta", "nav", "noembed",
   "noframes", "noscript", "object", "ol", "p", "param", "plaintext", "pre", "script", "section",
   "select", "source", "style", "summary", "table", "tbody", "td", "template", "textarea", "tfoot",
   "th", "thead", "title", "tr", "track", "ul", "wbr", "xmp"]

/-- The elements in which text stands within formulas. -/
def formulaTextTags : List String :=
  ["mi", "mo", "mn", "ms", "mtext"]

/-- The elements in which other content stands within drawings. -/
def drawingContentTags : List String :=
  ["foreignobject", "desc", "title"]

/-- The elements beyond which no open element is in scope. -/
def scopeTags : List String :=
  ["applet", "caption", "html", "table", "td", "th", "marquee", "object", "template"]

/-- The elements beyond which no open element is in table scope. -/
def tableScopeTags : List String :=
  ["html", "table", "template"]

/-- The elements whose end may be left out. -/
def impliedEndTags : List String :=
  ["dd", "dt", "li", "option", "optgroup", "p", "rb", "rp", "rt", "rtc"]

/-- The elements whose end may be left out at the end of a template. -/
def templateImpliedEndTags : List String :=
  impliedEndTags ++ ["caption", "colgroup", "tbody", "td", "tfoot", "th", "thead", "tr"]

/-- The headings. -/
def headingTags : List String :=
  ["h1", "h2", "h3", "h4", "h5", "h6"]

/-- The parts of a table whose own text is moved before the table. -/
def tableStructureTags : List String :=
  ["table", "tbody", "tfoot", "thead", "tr"]

/-- The cells of a table. -/
def cellTags : List String :=
  ["td", "th"]

/-- The parts of a table that hold rows. -/
def rowGroupTags : List String :=
  ["tbody", "tfoot", "thead"]

/-- The parts of a table other than its cells and rows, as their start tags end a row. -/
def tablePartTags : List String :=
  ["caption", "col", "colgroup", "tbody", "tfoot", "thead"]

/-- The elements that stand in the head of a document wherever they are found. -/
def metadataTags : List String :=
  ["base", "basefont", "bgsound", "link", "meta", "noframes", "script", "style", "template",
   "title"]

/-- The elements that stand in the head and have no content. -/
def emptyMetadataTags : List String :=
  ["base", "basefont", "bgsound", "link", "meta"]

/-- The elements that end a paragraph and hold blocks. -/
def blockTags : List String :=
  ["address", "article", "aside", "blockquote", "center", "details", "dialog", "dir", "div", "dl",
   "fieldset", "figcaption", "figure", "footer", "header", "hgroup", "main", "menu", "nav", "ol",
   "p", "search", "section", "summary", "ul"]

/-- The elements whose end tags close all that is open within them. -/
def closableBlockTags : List String :=
  ["address", "article", "aside", "blockquote", "button", "center", "details", "dialog", "dir",
   "div", "dl", "fieldset", "figcaption", "figure", "footer", "header", "hgroup", "listing", "main",
   "menu", "nav", "ol", "pre", "search", "section", "summary", "ul"]

/-- The elements that format text, and are opened again after a block that ends them. -/
def formattingTags : List String :=
  ["b", "big", "code", "em", "font", "i", "s", "small", "strike", "strong", "tt", "u"]

/-- The elements within text that have no content. -/
def emptyInlineTags : List String :=
  ["area", "br", "embed", "img", "input", "keygen", "wbr"]

/-- The elements around which formatting has no effect. -/
def formattingBarrierTags : List String :=
  ["applet", "marquee", "object"]

/-- The start tags that have no meaning in text. -/
def misplacedTags : List String :=
  ["caption", "col", "colgroup", "frame", "head", "tbody", "td", "tfoot", "th", "thead", "tr"]

/-- The start tags that end formulas and drawings. -/
def foreignBreakoutTags : List String :=
  ["b", "big", "blockquote", "body", "br", "center", "code", "dd", "div", "dl", "dt", "em", "embed",
   "h1", "h2", "h3", "h4", "h5", "h6", "head", "hr", "i", "img", "li", "listing", "menu", "meta",
   "nobr", "ol", "p", "pre", "ruby", "s", "small", "span", "strong", "strike", "sub", "sup",
   "table", "tt", "u", "ul", "var"]

/-- The attributes of drawings that have capital letters. -/
def drawingAttributes : List String :=
  ["attributeName", "attributeType", "baseFrequency", "baseProfile", "calcMode", "clipPathUnits",
   "diffuseConstant", "edgeMode", "filterUnits", "glyphRef", "gradientTransform", "gradientUnits",
   "kernelMatrix", "kernelUnitLength", "keyPoints", "keySplines", "keyTimes", "lengthAdjust",
   "limitingConeAngle", "markerHeight", "markerUnits", "markerWidth", "maskContentUnits",
   "maskUnits", "numOctaves", "pathLength", "patternContentUnits", "patternTransform",
   "patternUnits", "pointsAtX", "pointsAtY", "pointsAtZ", "preserveAlpha", "preserveAspectRatio",
   "primitiveUnits", "refX", "refY", "repeatCount", "repeatDur", "requiredExtensions",
   "requiredFeatures", "specularConstant", "specularExponent", "spreadMethod", "startOffset",
   "stdDeviation", "stitchTiles", "surfaceScale", "systemLanguage", "tableValues", "targetX",
   "targetY", "textLength", "viewBox", "viewTarget", "xChannelSelector", "yChannelSelector",
   "zoomAndPan"]

/-- The attributes of formulas and drawings whose names have a part before a colon, and the part
that is kept. -/
def qualifiedAttributes : List (String × String) :=
  [("xlink:actuate", "actuate"), ("xlink:arcrole", "arcrole"), ("xlink:href", "href"),
   ("xlink:role", "role"), ("xlink:show", "show"), ("xlink:title", "title"),
   ("xlink:type", "type"), ("xml:lang", "lang"), ("xml:space", "space"), ("xmlns:xlink", "xlink")]

end TexListing.Html
