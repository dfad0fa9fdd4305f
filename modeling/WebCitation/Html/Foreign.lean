import WebCitation.Html.Node
import WebCitation.Html.Token

/-! Elements of the two vocabularies other than HTML that a page may hold. -/
namespace WebCitation.Html

def svg : String := "http://www.w3.org/2000/svg"

def mathMl : String := "http://www.w3.org/1998/Math/MathML"

/-- Names whose capital letters tags do not keep. -/
def restoreCase (names : List String) (name : String) : String :=
  (names.find? (·.asciiLower == name)).getD name

def svgElements : List String :=
  ["altGlyph", "altGlyphDef", "altGlyphItem", "animateColor", "animateMotion", "animateTransform",
    "clipPath", "feBlend", "feColorMatrix", "feComponentTransfer", "feComposite", "feConvolveMatrix",
    "feDiffuseLighting", "feDisplacementMap", "feDistantLight", "feDropShadow", "feFlood", "feFuncA",
    "feFuncB", "feFuncG", "feFuncR", "feGaussianBlur", "feImage", "feMerge", "feMergeNode",
    "feMorphology", "feOffset", "fePointLight", "feSpecularLighting", "feSpotLight", "feTile",
    "feTurbulence", "foreignObject", "glyphRef", "linearGradient", "radialGradient", "textPath"]

def svgAttributes : List String :=
  ["attributeName", "attributeType", "baseFrequency", "baseProfile", "calcMode", "clipPathUnits",
    "diffuseConstant", "edgeMode", "filterUnits", "glyphRef", "gradientTransform", "gradientUnits",
    "kernelMatrix", "kernelUnitLength", "keyPoints", "keySplines", "keyTimes", "lengthAdjust",
    "limitingConeAngle", "markerHeight", "markerUnits", "markerWidth", "maskContentUnits", "maskUnits",
    "numOctaves", "pathLength", "patternContentUnits", "patternTransform", "patternUnits",
    "pointsAtX", "pointsAtY", "pointsAtZ", "preserveAlpha", "preserveAspectRatio", "primitiveUnits",
    "refX", "refY", "repeatCount", "repeatDur", "requiredExtensions", "requiredFeatures",
    "specularConstant", "specularExponent", "spreadMethod", "startOffset", "stdDeviation",
    "stitchTiles", "surfaceScale", "systemLanguage", "tableValues", "targetX", "targetY",
    "textLength", "viewBox", "viewTarget", "xChannelSelector", "yChannelSelector", "zoomAndPan"]

/-- Attributes of these vocabularies that belong to a namespace. -/
def spacedAttributes : List (String × Name) :=
  let xlink := some "http://www.w3.org/1999/xlink"
  let xml := some "http://www.w3.org/XML/1998/namespace"
  let xmlns := some "http://www.w3.org/2000/xmlns/"
  [("xlink:actuate", ⟨xlink, "actuate"⟩), ("xlink:arcrole", ⟨xlink, "arcrole"⟩),
    ("xlink:href", ⟨xlink, "href"⟩), ("xlink:role", ⟨xlink, "role"⟩),
    ("xlink:show", ⟨xlink, "show"⟩), ("xlink:title", ⟨xlink, "title"⟩),
    ("xlink:type", ⟨xlink, "type"⟩), ("xml:lang", ⟨xml, "lang"⟩), ("xml:space", ⟨xml, "space"⟩),
    ("xmlns", ⟨xmlns, "xmlns"⟩), ("xmlns:xlink", ⟨xmlns, "xlink"⟩)]

def Tag.plainAttributes (t : Tag) : List Attribute :=
  t.attributes.map fun (name, value) => ⟨.plain name, value⟩

def Tag.foreignAttributes (t : Tag) (space : String) : List Attribute :=
  t.attributes.map fun (name, value) =>
    match spacedAttributes.lookup name with
    | some n => ⟨n, value⟩
    | none =>
      if space = svg then ⟨.plain (restoreCase svgAttributes name), value⟩
      else if space = mathMl && name = "definitionurl" then ⟨.plain "definitionURL", value⟩
      else ⟨.plain name, value⟩

/-- The name of an element of another vocabulary. -/
def Tag.foreignName (t : Tag) (space : String) : Name :=
  ⟨some space, if space = svg then restoreCase svgElements t.name else t.name⟩

def Name.isMathText (n : Name) : Bool :=
  n.space == some mathMl && ["mi", "mo", "mn", "ms", "mtext"].contains n.stem

def Name.isSvgHolder (n : Name) : Bool :=
  n.space == some svg && ["foreignObject", "desc", "title"].contains n.stem

/-- Start tags of HTML that end any other vocabulary. -/
def breakoutTags : List String :=
  ["b", "big", "blockquote", "body", "br", "center", "code", "dd", "div", "dl", "dt", "em", "embed",
    "h1", "h2", "h3", "h4", "h5", "h6", "head", "hr", "i", "img", "li", "listing", "menu", "meta",
    "nobr", "ol", "p", "pre", "ruby", "s", "small", "span", "strong", "strike", "sub", "sup", "table",
    "tt", "u", "ul", "var"]

def Tag.breaksOut (t : Tag) : Bool :=
  breakoutTags.contains t.name
    || (t.name == "font" && ["color", "face", "size"].any fun n => (t.attribute? n).isSome)

end WebCitation.Html
