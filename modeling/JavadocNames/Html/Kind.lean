import JavadocNames.Html.Token

/-!
# Kinds of elements and document types

The lists of names on which the building of a page depends: which elements bound a
scope, which are closed without an end tag, and which document types let a table
stand inside a paragraph.
-/

namespace JavadocNames

namespace Html

/-- The vocabulary that an element belongs to. -/
inductive Vocabulary where
  | html
  | mathml
  | svg
  deriving DecidableEq

/-- The name of an element within its vocabulary. -/
structure ElementName where
  vocabulary : Vocabulary
  name : String
  deriving DecidableEq

namespace ElementName

/-- An HTML element of a set of names. -/
def isHtml (e : ElementName) (names : String → Bool) : Bool :=
  e.vocabulary = .html && names e.name

/-- A MathML element whose text is HTML. -/
def isMathText (e : ElementName) : Bool :=
  e.vocabulary = .mathml &&
    match e.name with
    | "mi" | "mo" | "mn" | "ms" | "mtext" => true
    | _ => false

/-- An SVG element whose content is HTML. -/
def isSvgHolder (e : ElementName) : Bool :=
  e.vocabulary = .svg &&
    match e.name with
    | "foreignObject" | "desc" | "title" => true
    | _ => false

end ElementName

/-! ## Scopes -/

/-- The elements beyond which no open element is looked for. -/
def boundsScope (e : ElementName) : Bool :=
  e.isHtml bounds || e.isMathText || e.isSvgHolder
where
  bounds : String → Bool
    | "applet" | "caption" | "html" | "table" | "td" | "th" | "marquee" | "object"
    | "template" => true
    | _ => false

/-- The bounds when a list item is looked for. -/
def boundsListScope (e : ElementName) : Bool :=
  boundsScope e || e.isHtml fun name => name = "ol" || name = "ul"

/-- The bounds when a paragraph is looked for. -/
def boundsButtonScope (e : ElementName) : Bool :=
  boundsScope e || e.isHtml (· = "button")

/-- The bounds when a part of a table is looked for. -/
def boundsTableScope (e : ElementName) : Bool :=
  e.isHtml fun
    | "html" | "table" | "template" => true
    | _ => false

/-- The bounds when a selection is looked for: everything but its options. -/
def boundsSelectScope (e : ElementName) : Bool :=
  !e.isHtml fun name => name = "optgroup" || name = "option"

/-! ## Sets of names -/

/-- The elements that rows stand in. -/
def isRowHolder : String → Bool
  | "tbody" | "tfoot" | "thead" | "template" | "html" => true
  | _ => false

/-- The elements that cells stand in. -/
def isCellHolder : String → Bool
  | "tr" | "template" | "html" => true
  | _ => false

/-- The cells of a table. -/
def isCell : String → Bool
  | "td" | "th" => true
  | _ => false

/-- The parts of a table in which nothing but other parts may stand. -/
def isTablePart : String → Bool
  | "table" | "tbody" | "tfoot" | "thead" | "tr" => true
  | _ => false

/-- The elements that are closed when what holds them is. -/
def isImplied : String → Bool
  | "dd" | "dt" | "li" | "option" | "optgroup" | "p" | "rb" | "rp" | "rt" | "rtc" => true
  | _ => false

/-- The elements that are closed when a template is. -/
def isImpliedInTemplate : String → Bool
  | "caption" | "colgroup" | "tbody" | "td" | "tfoot" | "th" | "thead" | "tr" => true
  | name => isImplied name

/-- The headings of the six levels. -/
def isHeading : String → Bool
  | "h1" | "h2" | "h3" | "h4" | "h5" | "h6" => true
  | _ => false

/-- The elements that formatting does not reach into unseen. -/
def isSpecial : String → Bool
  | "address" | "applet" | "area" | "article" | "aside" | "base" | "basefont"
  | "bgsound" | "blockquote" | "body" | "br" | "button" | "caption" | "center" | "col"
  | "colgroup" | "dd" | "details" | "dir" | "div" | "dl" | "dt" | "embed" | "fieldset"
  | "figcaption" | "figure" | "footer" | "form" | "frame" | "frameset" | "h1" | "h2"
  | "h3" | "h4" | "h5" | "h6" | "head" | "header" | "hgroup" | "hr" | "html" | "iframe"
  | "img" | "input" | "isindex" | "li" | "link" | "listing" | "main" | "marquee"
  | "menu" | "meta" | "nav" | "noembed" | "noframes" | "noscript" | "object" | "ol"
  | "p" | "param" | "plaintext" | "pre" | "script" | "section" | "select" | "source"
  | "style" | "summary" | "table" | "tbody" | "td" | "template" | "textarea" | "tfoot"
  | "th" | "thead" | "title" | "tr" | "track" | "ul" | "wbr" | "xmp" => true
  | _ => false

/-- The HTML elements that end foreign content. -/
def endsForeign : String → Bool
  | "b" | "big" | "blockquote" | "body" | "br" | "center" | "code" | "dd" | "div" | "dl"
  | "dt" | "em" | "embed" | "h1" | "h2" | "h3" | "h4" | "h5" | "h6" | "head" | "hr"
  | "i" | "img" | "li" | "listing" | "menu" | "meta" | "nobr" | "ol" | "p" | "pre"
  | "ruby" | "s" | "small" | "span" | "strong" | "strike" | "sub" | "sup" | "table"
  | "tt" | "u" | "ul" | "var" => true
  | _ => false

/-! ## Document types -/

/-- Public identifiers, in lower case, that mark a page as an old one. -/
def oldPublicIds : List String :=
  ["-//w3o//dtd w3 html strict 3.0//en//", "-/w3c/dtd html 4.0 transitional/en", "html"]

/-- Starts of public identifiers, in lower case, that mark a page as an old one. -/
def oldPublicStarts : List String :=
  ["-//as//dtd html 3.0 aswedit + extensions//",
    "-//advasoft ltd//dtd html 3.0 aswedit + extensions//",
    "-//ietf//dtd html 2.0 level 1//",
    "-//ietf//dtd html 2.0 level 2//",
    "-//ietf//dtd html 2.0 strict level 1//",
    "-//ietf//dtd html 2.0 strict level 2//",
    "-//ietf//dtd html 2.0 strict//",
    "-//ietf//dtd html 2.0//",
    "-//ietf//dtd html 2.1e//",
    "-//ietf//dtd html 3.0//",
    "-//ietf//dtd html 3.2 final//",
    "-//ietf//dtd html 3.2//",
    "-//ietf//dtd html 3//",
    "-//ietf//dtd html level 0//",
    "-//ietf//dtd html level 1//",
    "-//ietf//dtd html level 2//",
    "-//ietf//dtd html level 3//",
    "-//ietf//dtd html strict level 0//",
    "-//ietf//dtd html strict level 1//",
    "-//ietf//dtd html strict level 2//",
    "-//ietf//dtd html strict level 3//",
    "-//ietf//dtd html strict//",
    "-//ietf//dtd html//",
    "-//metrius//dtd metrius presentational//",
    "-//microsoft//dtd internet explorer 2.0 html strict//",
    "-//microsoft//dtd internet explorer 2.0 html//",
    "-//microsoft//dtd internet explorer 2.0 tables//",
    "-//microsoft//dtd internet explorer 3.0 html strict//",
    "-//microsoft//dtd internet explorer 3.0 html//",
    "-//microsoft//dtd internet explorer 3.0 tables//",
    "-//netscape comm. corp.//dtd html//",
    "-//netscape comm. corp.//dtd strict html//",
    "-//o'reilly and associates//dtd html 2.0//",
    "-//o'reilly and associates//dtd html extended 1.0//",
    "-//o'reilly and associates//dtd html extended relaxed 1.0//",
    "-//softquad software//dtd hotmetal pro 6.0::19990601::extensions to html 4.0//",
    "-//softquad//dtd hotmetal pro 4.0::19971010::extensions to html 4.0//",
    "-//spyglass//dtd html 2.0 extended//",
    "-//sq//dtd html 2.0 hotmetal + extensions//",
    "-//sun microsystems corp.//dtd hotjava html//",
    "-//sun microsystems corp.//dtd hotjava strict html//",
    "-//w3c//dtd html 3 1995-03-24//",
    "-//w3c//dtd html 3.2 draft//",
    "-//w3c//dtd html 3.2 final//",
    "-//w3c//dtd html 3.2//",
    "-//w3c//dtd html 3.2s draft//",
    "-//w3c//dtd html 4.0 frameset//",
    "-//w3c//dtd html 4.0 transitional//",
    "-//w3c//dtd html experimental 19960712//",
    "-//w3c//dtd html experimental 970421//",
    "-//w3c//dtd w3 html//",
    "-//w3o//dtd w3 html 3.0//",
    "-//webtechs//dtd mozilla html 2.0//",
    "-//webtechs//dtd mozilla html//"]

/-- Starts of public identifiers that mark a page as an old one unless a system
identifier follows. -/
def oldUnlessSystemStarts : List String :=
  ["-//w3c//dtd html 4.01 frameset//", "-//w3c//dtd html 4.01 transitional//"]

/-- The parts between slashes of the system identifier that marks a page as an old
one. -/
def oldSystemParts : List String :=
  ["http:", "", "www.ibm.com", "data", "dtd", "v11", "ibmxhtml1-transitional.dtd"]

/-- The document type marks an old page, in which a table does not end a
paragraph. -/
def Doctype.isOld (d : Doctype) : Bool :=
  let publicId := d.publicId.map lowerAscii
  let systemId := d.systemId.map lowerAscii
  let startsWithOne := fun (starts : List String) =>
    publicId.any fun id => starts.any fun s => s.toList.isPrefixOf id
  d.malformed || d.name ≠ some "html".toList ||
    publicId.any (fun id => oldPublicIds.any fun old => old.toList = id) ||
    systemId = some (Text.join ['/'] (oldSystemParts.map String.toList)) ||
    startsWithOne oldPublicStarts ||
    systemId.isNone && startsWithOne oldUnlessSystemStarts

end Html

end JavadocNames
