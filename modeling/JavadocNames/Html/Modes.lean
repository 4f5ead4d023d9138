import JavadocNames.Html.Formatting

/-!
# The rules of each mode

Each mode has a rule for every token.  A rule answers with the new state and
whether the token is to be considered again, in the mode that is then set.
-/

namespace JavadocNames

namespace Html

namespace Growth

/-- The state after a rule, and whether the token is to be considered again. -/
abbrev Ruled := Growth × Bool

/-- The token is used up. -/
def done (g : Growth) : Ruled := (g, false)

/-- The token is considered again in another mode. -/
def again (g : Growth) (mode : Mode) : Ruled := ({ g with mode := mode }, true)

/-- The token is considered again in the mode that the open elements ask for. -/
def againReset (g : Growth) : Ruled := (g.resetMode, true)

/-- Go to another mode. -/
def goTo (g : Growth) (mode : Mode) : Growth := { g with mode := mode }

/-- No frameset may follow. -/
def forbidFrameset (g : Growth) : Growth := { g with framesetAllowed := false }

/-- A line feed that comes next is dropped. -/
def dropLineFeed (g : Growth) : Growth := { g with dropsLineFeed := true }

/-! ## Before the body -/

/-- Before anything: the document type decides whether the page is an old one. -/
def ruleInitial (g : Growth) : Token → Ruled
  | .character c =>
      if isSpace c then g.done else { g with isOld := true }.again .beforeHtml
  | .comment => g.done
  | .doctype d => { g with isOld := d.isOld, mode := .beforeHtml }.done
  | _ => { g with isOld := true }.again .beforeHtml

/-- Make the element that holds the page. -/
def createRoot (g : Growth) (attributes : Attributes) : Growth :=
  let (node, g) := g.make (.element ⟨.html, "html"⟩ attributes)
  (g.place node (.lastIn document)).push node

/-- An end tag that may stand where its element is not open. -/
def isLateEnd : String → Bool
  | "head" | "body" | "html" | "br" => true
  | _ => false

/-- Before the outermost element, which any token but a comment or a blank
implies. -/
def ruleBeforeHtml (g : Growth) : Token → Ruled
  | .character c => if isSpace c then g.done else (g.createRoot []).again .beforeHead
  | .comment => g.done
  | .startTag tag =>
      if tag.name = "html" then ((g.createRoot tag.attributes).goTo .beforeHead).done
      else (g.createRoot []).again .beforeHead
  | .endTag tag =>
      if isLateEnd tag.name then (g.createRoot []).again .beforeHead else g.done
  | _ => (g.createRoot []).again .beforeHead

/-- Insert the head, which some tag stands for or none. -/
def insertHead (g : Growth) (attributes : Attributes) : Growth :=
  let (node, g) := g.insert ⟨.html, "head"⟩ attributes
  { g with head := some node, mode := .inHead }

/-- Before the head, which any token but a comment or a blank implies.  A second tag
of the outermost element adds nothing that is kept. -/
def ruleBeforeHead (g : Growth) : Token → Ruled
  | .character c => if isSpace c then g.done else ((g.insertHead []), true)
  | .comment => g.done
  | .startTag tag =>
      if tag.name = "html" then g.done
      else if tag.name = "head" then (g.insertHead tag.attributes).done
      else (g.insertHead [], true)
  | .endTag tag => if isLateEnd tag.name then (g.insertHead [], true) else g.done
  | _ => (g.insertHead [], true)

/-- Open a template. -/
def openTemplate (g : Growth) (tag : Tag) : Growth :=
  let g := ((g.insertTag tag).markFormatting).forbidFrameset
  { g with mode := .inTemplate, templateModes := .inTemplate :: g.templateModes }

/-- Leave the innermost template, once its element is closed. -/
def leaveTemplate (g : Growth) : Growth :=
  let g := g.forgetFormatting
  { g with templateModes := g.templateModes.tail }.resetMode

/-- Close a template, if one is open. -/
def closeTemplate (g : Growth) : Growth :=
  if g.inTemplate then
    ((g.closeImplied isImpliedInTemplate).popThrough (· = "template")).leaveTemplate
  else g

/-- A start tag that may stand in the head; `none` for any other. -/
def headTag? (g : Growth) (tag : Tag) : Option Growth :=
  match tag.name with
  | "base" | "basefont" | "bgsound" | "link" | "meta" => some (g.insertVoidTag tag)
  | "title" => some (g.insertTextElement tag (.text tag.name))
  | "noframes" | "style" => some (g.insertRawText tag)
  | "script" => some (g.insertTextElement tag (.script .plain))
  | "template" => some (g.openTemplate tag)
  | _ => none

/-- In the head; a token that does not belong there ends it. -/
def ruleInHead (g : Growth) : Token → Ruled
  | .character c =>
      if isSpace c then (g.addCharacter c).done else g.pop.again .afterHead
  | .comment => g.done
  | .startTag tag =>
      match tag.name with
      | "html" | "head" => g.done
      | "noscript" => (g.insertRawText tag).done
      | _ =>
          match g.headTag? tag with
          | some g => g.done
          | none => g.pop.again .afterHead
  | .endTag tag =>
      match tag.name with
      | "head" => (g.pop.goTo .afterHead).done
      | "body" | "html" | "br" => g.pop.again .afterHead
      | "template" => g.closeTemplate.done
      | _ => g.done
  | _ => g.pop.again .afterHead

/-- Between the head and the body.  A tag that belongs into the head still goes
there. -/
def ruleAfterHead (g : Growth) : Token → Ruled
  | .character c =>
      if isSpace c then (g.addCharacter c).done
      else (g.insertImplied "body").again .inBody
  | .comment => g.done
  | .startTag tag =>
      match tag.name with
      | "html" | "head" => g.done
      | "body" => ((g.insertTag tag).forbidFrameset.goTo .inBody).done
      | "frameset" => ((g.insertTag tag).goTo .inFrameset).done
      | _ =>
          match g.head with
          | none => (g.insertImplied "body").again .inBody
          | some head =>
              match (g.push head).headTag? tag with
              | some g => (g.unstack head).done
              | none => (g.insertImplied "body").again .inBody
  | .endTag tag =>
      match tag.name with
      | "template" => g.closeTemplate.done
      | "body" | "html" | "br" => (g.insertImplied "body").again .inBody
      | _ => g.done
  | _ => (g.insertImplied "body").again .inBody

/-! ## The body -/

/-- The body, when it is the second open element. -/
def body? (g : Growth) : Option Nat :=
  match g.stack.reverse with
  | _ :: node :: _ => if g.isHtml node (· = "body") then some node else none
  | _ => none

/-- A character in the body. -/
def addBodyCharacter (g : Growth) (c : Char) : Growth :=
  let g := g.reconstruct
  let g := if isSpace c then g else g.forbidFrameset
  g.addCharacter c

/-- A frameset puts the body aside, as long as the body holds nothing. -/
def openFrameset (g : Growth) (tag : Tag) : Growth :=
  if g.framesetAllowed then
    match g.body? with
    | none => g
    | some body =>
        let g := g.detach body
        let g := { g with stack := g.stack.getLast?.toList }
        (g.insertTag tag).goTo .inFrameset
  else g

/-- Close the list item, term or description that a new one ends. -/
def closeItem (g : Growth) (isItem : String → Bool) : Growth :=
  go g.stack
where
  go : List Nat → Growth
    | [] => g
    | n :: outer =>
        match g.name? n with
        | some ⟨.html, name⟩ =>
            if isItem name then (g.closeImpliedBut name).popThrough (· = name)
            else if isSpecial name && name ≠ "address" && name ≠ "div" && name ≠ "p" then g
            else go outer
        | _ => go outer

/-- An element of the MathML or SVG vocabulary. -/
def insertForeign (g : Growth) (vocabulary : Vocabulary) (tag : Tag) : Growth :=
  if tag.selfClosing then (g.insertVoid ⟨vocabulary, tag.name⟩ tag.attributes).2
  else (g.insert ⟨vocabulary, tag.name⟩ tag.attributes).2

/-- A field that is not shown. -/
def isHidden (tag : Tag) : Bool :=
  (attribute? "type" tag.attributes).any fun value =>
    lowerAscii value.toList = "hidden".toList

/-- A start tag in the body. -/
def bodyStart (g : Growth) (tag : Tag) : Ruled :=
  match tag.name with
  | "html" | "body" =>
      -- Attributes that are added to these two elements are never asked for.
      if tag.name = "body" && g.body?.isSome && !g.inTemplate then g.forbidFrameset.done
      else g.done
  | "base" | "basefont" | "bgsound" | "link" | "meta" | "noframes" | "script" | "style"
  | "template" | "title" => ((g.headTag? tag).getD g).done
  | "frameset" => (g.openFrameset tag).done
  | "address" | "article" | "aside" | "blockquote" | "center" | "details" | "dialog"
  | "dir" | "div" | "dl" | "fieldset" | "figcaption" | "figure" | "footer" | "header"
  | "hgroup" | "main" | "menu" | "nav" | "ol" | "p" | "search" | "section" | "summary"
  | "ul" => (g.closeOpenParagraph.insertTag tag).done
  | "h1" | "h2" | "h3" | "h4" | "h5" | "h6" =>
      let g := g.closeOpenParagraph
      let g := if g.currentIn isHeading then g.pop else g
      (g.insertTag tag).done
  | "pre" | "listing" =>
      (g.closeOpenParagraph.insertTag tag).forbidFrameset.dropLineFeed.done
  | "form" =>
      if g.form.isSome && !g.inTemplate then g.done
      else
        let (node, g) :=
          g.closeOpenParagraph.insert ⟨.html, "form"⟩ tag.attributes
        (if g.inTemplate then g else { g with form := some node }).done
  | "li" =>
      ((g.forbidFrameset.closeItem (· = "li")).closeOpenParagraph.insertTag tag).done
  | "dd" | "dt" =>
      ((g.forbidFrameset.closeItem fun n => n = "dd" || n = "dt").closeOpenParagraph.insertTag
        tag).done
  | "plaintext" =>
      { g.closeOpenParagraph.insertTag tag with request := some .plainText }.done
  | "button" =>
      let g := if g.hasInScope boundsScope "button" then g.closeThrough "button" else g
      (g.reconstruct.insertTag tag).forbidFrameset.done
  | "a" => (g.closeOpenAnchor.reconstruct.insertFormatting tag).done
  | "b" | "big" | "code" | "em" | "font" | "i" | "s" | "small" | "strike" | "strong"
  | "tt" | "u" => (g.reconstruct.insertFormatting tag).done
  | "nobr" =>
      let g := g.reconstruct
      let g := if g.hasInScope boundsScope "nobr" then (g.adopt "nobr").reconstruct else g
      (g.insertFormatting tag).done
  | "applet" | "marquee" | "object" =>
      (g.reconstruct.insertTag tag).markFormatting.forbidFrameset.done
  | "table" =>
      let g := if g.isOld then g else g.closeOpenParagraph
      ((g.insertTag tag).forbidFrameset.goTo .inTable).done
  | "area" | "br" | "embed" | "img" | "keygen" | "wbr" =>
      (g.reconstruct.insertVoidTag tag).forbidFrameset.done
  | "image" => (g.reconstruct.insertVoidTag { tag with name := "img" }).forbidFrameset.done
  | "input" =>
      let g := g.reconstruct.insertVoidTag tag
      (if isHidden tag then g else g.forbidFrameset).done
  | "param" | "source" | "track" => (g.insertVoidTag tag).done
  | "hr" => (g.closeOpenParagraph.insertVoidTag tag).forbidFrameset.done
  | "textarea" =>
      (g.dropLineFeed.forbidFrameset.insertTextElement tag (.text tag.name)).done
  | "xmp" => (g.closeOpenParagraph.reconstruct.forbidFrameset.insertRawText tag).done
  | "iframe" => (g.forbidFrameset.insertRawText tag).done
  | "noembed" | "noscript" => (g.insertRawText tag).done
  | "select" =>
      let inTablePart := g.mode = .inTable || g.mode = .inCaption ||
        g.mode = .inTableBody || g.mode = .inRow || g.mode = .inCell
      ((g.reconstruct.insertTag tag).forbidFrameset.goTo
        (if inTablePart then .inSelectInTable else .inSelect)).done
  | "optgroup" | "option" =>
      let g := if g.currentIn (· = "option") then g.pop else g
      (g.reconstruct.insertTag tag).done
  | "rb" | "rtc" =>
      let g := if g.hasInScope boundsScope "ruby" then g.closeImplied isImplied else g
      (g.insertTag tag).done
  | "rp" | "rt" =>
      let g := if g.hasInScope boundsScope "ruby" then g.closeImpliedBut "rtc" else g
      (g.insertTag tag).done
  | "math" => (g.reconstruct.insertForeign .mathml tag).done
  | "svg" => (g.reconstruct.insertForeign .svg tag).done
  | "caption" | "col" | "colgroup" | "frame" | "head" | "tbody" | "td" | "tfoot" | "th"
  | "thead" | "tr" => g.done
  | _ => (g.reconstruct.insertTag tag).done

/-- The end of a form. -/
def closeForm (g : Growth) : Growth :=
  if g.inTemplate then
    if g.hasInScope boundsScope "form" then g.closeThrough "form" else g
  else
    match g.form with
    | none => g
    | some form =>
        let g := { g with form := none }
        if g.scopeHas boundsScope (· = form) then
          (g.closeImplied isImplied).unstack form
        else g

/-- An end tag in the body. -/
def bodyEnd (g : Growth) (tag : Tag) : Ruled :=
  match tag.name with
  | "template" => g.closeTemplate.done
  | "body" => (if g.hasInScope boundsScope "body" then g.goTo .afterBody else g).done
  | "html" => if g.hasInScope boundsScope "body" then g.again .afterBody else g.done
  | "address" | "article" | "aside" | "blockquote" | "button" | "center" | "details"
  | "dialog" | "dir" | "div" | "dl" | "fieldset" | "figcaption" | "figure" | "footer"
  | "header" | "hgroup" | "listing" | "main" | "menu" | "nav" | "ol" | "pre" | "search"
  | "section" | "summary" | "ul" =>
      (if g.hasInScope boundsScope tag.name then g.closeThrough tag.name else g).done
  | "form" => g.closeForm.done
  | "p" =>
      let g := if g.hasInScope boundsButtonScope "p" then g else g.insertImplied "p"
      g.closeParagraph.done
  | "li" =>
      (if g.hasInScope boundsListScope "li" then
        (g.closeImpliedBut "li").popThrough (· = "li")
      else g).done
  | "dd" | "dt" =>
      (if g.hasInScope boundsScope tag.name then
        (g.closeImpliedBut tag.name).popThrough (· = tag.name)
      else g).done
  | "h1" | "h2" | "h3" | "h4" | "h5" | "h6" =>
      (if g.scopeHas boundsScope (g.isHtml · isHeading) then
        (g.closeImplied isImplied).popThrough isHeading
      else g).done
  | "a" | "b" | "big" | "code" | "em" | "font" | "i" | "nobr" | "s" | "small" | "strike"
  | "strong" | "tt" | "u" => (g.adopt tag.name).done
  | "applet" | "marquee" | "object" =>
      (if g.hasInScope boundsScope tag.name then
        (g.closeThrough tag.name).forgetFormatting
      else g).done
  | "br" => g.bodyStart ⟨"br", [], false⟩
  | _ => (g.closeOrdinary tag.name).done

/-- The end of the page closes the open templates one by one. -/
def templateEnd (g : Growth) : Ruled :=
  if g.inTemplate then (g.popThrough (· = "template")).leaveTemplate.againReset
  else g.done

/-- In the body. -/
def ruleInBody (g : Growth) : Token → Ruled
  | .character c => (g.addBodyCharacter c).done
  | .startTag tag => g.bodyStart tag
  | .endTag tag => g.bodyEnd tag
  | .endOfFile => if g.templateModes = [] then g.done else g.templateEnd
  | _ => g.done

/-- Inside an element whose content is text. -/
def ruleText (g : Growth) : Token → Ruled
  | .character c => (g.addCharacter c).done
  | .endTag _ => (g.pop.goTo g.outerMode).done
  | .endOfFile => g.pop.again g.outerMode
  | _ => g.done

/-! ## Tables -/

/-- What may not stand in a table is treated as in the body, but put before the
table. -/
def fosterInBody (g : Growth) (token : Token) : Ruled :=
  let (g, repeated) := ({ g with fostering := true }).ruleInBody token
  ({ g with fostering := false }, repeated)

/-- Text in a table waits until it is known whether it is blank. -/
def tableCharacters (g : Growth) (token : Token) : Ruled :=
  if g.currentIn isTablePart then
    ({ g with outerMode := g.mode, tableText := [] }).again .inTableText
  else g.fosterInBody token

/-- A start tag in a table: its parts are opened, with the parts above them that are
missing, and anything else is put before the table. -/
def tableStart (g : Growth) (tag : Tag) : Ruled :=
  let cleared := g.popTo fun
    | "table" | "template" | "html" => true
    | _ => false
  match tag.name with
  | "caption" => ((cleared.markFormatting.insertTag tag).goTo .inCaption).done
  | "colgroup" => ((cleared.insertTag tag).goTo .inColumnGroup).done
  | "col" => (cleared.insertImplied "colgroup").again .inColumnGroup
  | "tbody" | "tfoot" | "thead" => ((cleared.insertTag tag).goTo .inTableBody).done
  | "td" | "th" | "tr" => (cleared.insertImplied "tbody").again .inTableBody
  | "table" =>
      if g.hasInScope boundsTableScope "table" then
        (g.popThrough (· = "table")).againReset
      else g.done
  | "style" | "script" | "template" => ((g.headTag? tag).getD g).done
  | "input" =>
      if isHidden tag then (g.insertVoidTag tag).done else g.fosterInBody (.startTag tag)
  | "form" =>
      if g.inTemplate || g.form.isSome then g.done
      else
        let (node, g) := g.insertVoid ⟨.html, "form"⟩ tag.attributes
        { g with form := some node }.done
  | _ => g.fosterInBody (.startTag tag)

/-- In a table, but in none of its parts. -/
def ruleInTable (g : Growth) (token : Token) : Ruled :=
  match token with
  | .character _ | .null => g.tableCharacters token
  | .startTag tag => g.tableStart tag
  | .endTag tag =>
      match tag.name with
      | "table" =>
          (if g.hasInScope boundsTableScope "table" then
            (g.popThrough (· = "table")).resetMode
          else g).done
      | "body" | "caption" | "col" | "colgroup" | "html" | "tbody" | "td" | "tfoot" | "th"
      | "thead" | "tr" => g.done
      | "template" => g.closeTemplate.done
      | _ => g.fosterInBody token
  | .endOfFile => g.ruleInBody token
  | .comment | .fault | .doctype _ => g.done

/-- Blank text stays in the table; any other text is put before it. -/
def placeTableText (g : Growth) : Growth :=
  let text := g.tableText.reverse
  let g := { g with tableText := [] }
  if text.all isSpace then text.foldl addCharacter g
  else text.foldl (fun g c => (g.fosterInBody (.character c)).1) g

/-- In a run of text within a table. -/
def ruleInTableText (g : Growth) : Token → Ruled
  | .character c => { g with tableText := c :: g.tableText }.done
  | .null => g.done
  | _ => g.placeTableText.again g.outerMode

/-- Close the caption, if one is open. -/
def closeCaption? (g : Growth) : Option Growth :=
  if g.hasInScope boundsTableScope "caption" then
    some (g.closeThrough "caption").forgetFormatting
  else none

/-- In the caption of a table; a part of the table ends it. -/
def ruleInCaption (g : Growth) (token : Token) : Ruled :=
  match token with
  | .startTag tag =>
      match tag.name with
      | "caption" | "col" | "colgroup" | "tbody" | "td" | "tfoot" | "th" | "thead" | "tr" =>
          match g.closeCaption? with
          | some g => g.again .inTable
          | none => g.done
      | _ => g.ruleInBody token
  | .endTag tag =>
      match tag.name with
      | "caption" => ((g.closeCaption?.map (·.goTo .inTable)).getD g).done
      | "table" =>
          match g.closeCaption? with
          | some g => g.again .inTable
          | none => g.done
      | "body" | "col" | "colgroup" | "html" | "tbody" | "td" | "tfoot" | "th" | "thead"
      | "tr" => g.done
      | _ => g.ruleInBody token
  | _ => g.ruleInBody token

/-- What does not belong into a column group ends it. -/
def endColumnGroup (g : Growth) : Ruled :=
  if g.currentIn (· = "colgroup") then g.pop.again .inTable else g.done

/-- In a group of columns. -/
def ruleInColumnGroup (g : Growth) (token : Token) : Ruled :=
  match token with
  | .character c => if isSpace c then (g.addCharacter c).done else g.endColumnGroup
  | .comment => g.done
  | .startTag tag =>
      match tag.name with
      | "html" => g.done
      | "col" => (g.insertVoidTag tag).done
      | "template" => (g.openTemplate tag).done
      | _ => g.endColumnGroup
  | .endTag tag =>
      match tag.name with
      | "colgroup" =>
          (if g.currentIn (· = "colgroup") then g.pop.goTo .inTable else g).done
      | "col" => g.done
      | "template" => g.closeTemplate.done
      | _ => g.endColumnGroup
  | .endOfFile => g.ruleInBody token
  | _ => g.endColumnGroup

/-- Close the part of the table that holds the rows. -/
def closeRowHolder (g : Growth) : Growth :=
  (g.popTo isRowHolder).pop

/-- In a part of a table that holds rows. -/
def ruleInTableBody (g : Growth) (token : Token) : Ruled :=
  let outer : Ruled :=
    if g.scopeHas boundsTableScope (g.isHtml · fun name =>
        name = "table" || name = "tbody" || name = "tfoot") then
      g.closeRowHolder.again .inTable
    else g.done
  match token with
  | .startTag tag =>
      match tag.name with
      | "tr" => (((g.popTo isRowHolder).insertTag tag).goTo .inRow).done
      | "th" | "td" => ((g.popTo isRowHolder).insertImplied "tr").again .inRow
      | "caption" | "col" | "colgroup" | "tbody" | "tfoot" | "thead" => outer
      | _ => g.ruleInTable token
  | .endTag tag =>
      match tag.name with
      | "tbody" | "tfoot" | "thead" =>
          (if g.hasInScope boundsTableScope tag.name then g.closeRowHolder.goTo .inTable
          else g).done
      | "table" => outer
      | "body" | "caption" | "col" | "colgroup" | "html" | "td" | "th" | "tr" => g.done
      | _ => g.ruleInTable token
  | _ => g.ruleInTable token

/-- Close the row, if one is open. -/
def closeRow? (g : Growth) : Option Growth :=
  if g.hasInScope boundsTableScope "tr" then some (g.popTo isCellHolder).pop else none

/-- In a row of a table. -/
def ruleInRow (g : Growth) (token : Token) : Ruled :=
  let outer : Ruled :=
    match g.closeRow? with
    | some g => g.again .inTableBody
    | none => g.done
  match token with
  | .startTag tag =>
      match tag.name with
      | "th" | "td" =>
          (((g.popTo isCellHolder).insertTag tag).goTo .inCell).markFormatting.done
      | "caption" | "col" | "colgroup" | "tbody" | "tfoot" | "thead" | "tr" => outer
      | _ => g.ruleInTable token
  | .endTag tag =>
      match tag.name with
      | "tr" => ((g.closeRow?.map (·.goTo .inTableBody)).getD g).done
      | "table" => outer
      | "tbody" | "tfoot" | "thead" =>
          if g.hasInScope boundsTableScope tag.name then outer else g.done
      | "body" | "caption" | "col" | "colgroup" | "html" | "td" | "th" => g.done
      | _ => g.ruleInTable token
  | _ => g.ruleInTable token

/-- Close the cell. -/
def closeCell (g : Growth) : Growth :=
  ((g.closeImplied isImplied).popThrough isCell).forgetFormatting

/-- In a cell of a table, where the rules of the body hold. -/
def ruleInCell (g : Growth) (token : Token) : Ruled :=
  match token with
  | .startTag tag =>
      match tag.name with
      | "caption" | "col" | "colgroup" | "tbody" | "td" | "tfoot" | "th" | "thead" | "tr" =>
          if g.scopeHas boundsTableScope (g.isHtml · isCell) then g.closeCell.again .inRow
          else g.done
      | _ => g.ruleInBody token
  | .endTag tag =>
      match tag.name with
      | "td" | "th" =>
          (if g.hasInScope boundsTableScope tag.name then
            (g.closeThrough tag.name).forgetFormatting.goTo .inRow
          else g).done
      | "body" | "caption" | "col" | "colgroup" | "html" => g.done
      | "table" | "tbody" | "tfoot" | "thead" | "tr" =>
          if g.hasInScope boundsTableScope tag.name then g.closeCell.again .inRow
          else g.done
      | _ => g.ruleInBody token
  | _ => g.ruleInBody token

/-! ## Selections, templates, framesets and the end -/

/-- Close the selection. -/
def closeSelect (g : Growth) : Growth :=
  g.popThrough (· = "select")

/-- In a selection, which holds nothing but options and their groups. -/
def ruleInSelect (g : Growth) (token : Token) : Ruled :=
  match token with
  | .character c => (g.addCharacter c).done
  | .startTag tag =>
      match tag.name with
      | "option" =>
          let g := if g.currentIn (· = "option") then g.pop else g
          (g.insertTag tag).done
      | "optgroup" =>
          let g := if g.currentIn (· = "option") then g.pop else g
          let g := if g.currentIn (· = "optgroup") then g.pop else g
          (g.insertTag tag).done
      | "select" =>
          (if g.hasInScope boundsSelectScope "select" then g.closeSelect.resetMode
          else g).done
      | "input" | "keygen" | "textarea" =>
          if g.hasInScope boundsSelectScope "select" then g.closeSelect.againReset
          else g.done
      | "script" | "template" => ((g.headTag? tag).getD g).done
      | _ => g.done
  | .endTag tag =>
      match tag.name with
      | "optgroup" =>
          let g :=
            match g.stack with
            | a :: b :: _ =>
                if g.isHtml a (· = "option") && g.isHtml b (· = "optgroup") then g.pop else g
            | _ => g
          (if g.currentIn (· = "optgroup") then g.pop else g).done
      | "option" => (if g.currentIn (· = "option") then g.pop else g).done
      | "select" =>
          (if g.hasInScope boundsSelectScope "select" then g.closeSelect.resetMode
          else g).done
      | "template" => g.closeTemplate.done
      | _ => g.done
  | .endOfFile => g.ruleInBody token
  | _ => g.done

/-- In a selection within a table; a part of the table ends it. -/
def ruleInSelectInTable (g : Growth) (token : Token) : Ruled :=
  let isPart : String → Bool := fun
    | "caption" | "table" | "tbody" | "tfoot" | "thead" | "tr" | "td" | "th" => true
    | _ => false
  match token with
  | .startTag tag =>
      if isPart tag.name then g.closeSelect.againReset else g.ruleInSelect token
  | .endTag tag =>
      if isPart tag.name then
        if g.hasInScope boundsTableScope tag.name then g.closeSelect.againReset else g.done
      else g.ruleInSelect token
  | _ => g.ruleInSelect token

/-- The content of a template decides in which mode it is read. -/
def templateAs (g : Growth) (mode : Mode) : Ruled :=
  { g with templateModes := mode :: g.templateModes.tail }.again mode

/-- At the start of the content of a template. -/
def ruleInTemplate (g : Growth) (token : Token) : Ruled :=
  match token with
  | .character _ => g.ruleInBody token
  | .startTag tag =>
      match g.headTag? tag with
      | some g => g.done
      | none =>
          match tag.name with
          | "caption" | "colgroup" | "tbody" | "tfoot" | "thead" => g.templateAs .inTable
          | "col" => g.templateAs .inColumnGroup
          | "tr" => g.templateAs .inTableBody
          | "td" | "th" => g.templateAs .inRow
          | _ => g.templateAs .inBody
  | .endTag tag => if tag.name = "template" then g.closeTemplate.done else g.done
  | .endOfFile => g.templateEnd
  | _ => g.done

/-- After the end tag of the body. -/
def ruleAfterBody (g : Growth) (token : Token) : Ruled :=
  match token with
  | .character c => if isSpace c then g.ruleInBody token else g.again .inBody
  | .comment | .fault | .endOfFile | .doctype _ => g.done
  | .startTag tag => if tag.name = "html" then g.ruleInBody token else g.again .inBody
  | .endTag tag =>
      if tag.name = "html" then (g.goTo .afterAfterBody).done else g.again .inBody
  | .null => g.again .inBody

/-- In a frameset. -/
def ruleInFrameset (g : Growth) : Token → Ruled
  | .character c => (if isSpace c then g.addCharacter c else g).done
  | .startTag tag =>
      match tag.name with
      | "frameset" => (g.insertTag tag).done
      | "frame" => (g.insertVoidTag tag).done
      | "noframes" => (g.insertRawText tag).done
      | _ => g.done
  | .endTag tag =>
      if tag.name = "frameset" && g.stack.length ≠ 1 then
        let g := g.pop
        (if g.currentIn (· = "frameset") then g else g.goTo .afterFrameset).done
      else g.done
  | _ => g.done

/-- After the end tag of a frameset. -/
def ruleAfterFrameset (g : Growth) : Token → Ruled
  | .character c => (if isSpace c then g.addCharacter c else g).done
  | .startTag tag =>
      (if tag.name = "noframes" then g.insertRawText tag else g).done
  | .endTag tag => (if tag.name = "html" then g.goTo .afterAfterFrameset else g).done
  | _ => g.done

/-- After the end of a page with a body. -/
def ruleAfterAfterBody (g : Growth) (token : Token) : Ruled :=
  match token with
  | .character c => if isSpace c then g.ruleInBody token else g.again .inBody
  | .comment | .fault | .endOfFile | .doctype _ => g.done
  | .startTag tag => if tag.name = "html" then g.ruleInBody token else g.again .inBody
  | _ => g.again .inBody

/-- After the end of a page with a frameset. -/
def ruleAfterAfterFrameset (g : Growth) (token : Token) : Ruled :=
  match token with
  | .character c => if isSpace c then g.ruleInBody token else g.done
  | .startTag tag => (if tag.name = "noframes" then g.insertRawText tag else g).done
  | _ => g.done

/-- The rule of the current mode. -/
def rule (g : Growth) (token : Token) : Ruled :=
  match g.mode with
  | .initial => g.ruleInitial token
  | .beforeHtml => g.ruleBeforeHtml token
  | .beforeHead => g.ruleBeforeHead token
  | .inHead => g.ruleInHead token
  | .afterHead => g.ruleAfterHead token
  | .inBody => g.ruleInBody token
  | .text => g.ruleText token
  | .inTable => g.ruleInTable token
  | .inTableText => g.ruleInTableText token
  | .inCaption => g.ruleInCaption token
  | .inColumnGroup => g.ruleInColumnGroup token
  | .inTableBody => g.ruleInTableBody token
  | .inRow => g.ruleInRow token
  | .inCell => g.ruleInCell token
  | .inSelect => g.ruleInSelect token
  | .inSelectInTable => g.ruleInSelectInTable token
  | .inTemplate => g.ruleInTemplate token
  | .afterBody => g.ruleAfterBody token
  | .inFrameset => g.ruleInFrameset token
  | .afterFrameset => g.ruleAfterFrameset token
  | .afterAfterBody => g.ruleAfterAfterBody token
  | .afterAfterFrameset => g.ruleAfterAfterFrameset token

end Growth

end Html

end JavadocNames
