import JavadocNames.Html.Modes

/-!
# Formulas and drawings

Inside a MathML or SVG element most tokens follow rules of their own, which do not
depend on the mode.  A few of these elements hold HTML again.
-/

namespace JavadocNames

namespace Html

/-- A start tag that ends all open MathML and SVG elements. -/
def Tag.endsForeign (tag : Tag) : Bool :=
  Html.endsForeign tag.name ||
    (tag.name = "font" &&
      tag.attributes.any fun a => a.1 = "color" || a.1 = "face" || a.1 = "size")

/-- A token that is read as HTML where text is. -/
def Token.isTextual : Token → Bool
  | .character _ | .null => true
  | _ => false

/-- A token that follows the rules of HTML although the current element, of this
name, does not belong to it. -/
def ElementName.admits (e : ElementName) : Token → Bool
  | .startTag tag =>
      e.isSvgHolder ||
        (e.isMathText && tag.name ≠ "mglyph" && tag.name ≠ "malignmark") ||
        (e = ⟨.mathml, "annotation-xml"⟩ && tag.name = "svg")
  | token => token.isTextual && (e.isMathText || e.isSvgHolder)

namespace Growth

/-- A token follows the rules of MathML and SVG. -/
def isForeign (g : Growth) : Token → Bool
  | .endOfFile => false
  | token => g.currentIs fun e => e.vocabulary ≠ .html && !e.admits token

/-- Close elements until HTML may stand again. -/
def leaveForeign (g : Growth) : Growth :=
  { g with stack := g.stack.dropWhile fun n =>
      g.isNamed n fun e => !(e.vocabulary = .html || e.isMathText || e.isSvgHolder) }

/-- The name under which an element of a vocabulary is known. -/
def foreignName (vocabulary : Vocabulary) (name : String) : String :=
  if vocabulary = .svg && name = "foreignobject" then "foreignObject" else name

/-- A start tag inside MathML or SVG. -/
def foreignStart (g : Growth) (tag : Tag) : Ruled :=
  if tag.endsForeign then g.leaveForeign.rule (.startTag tag)
  else
    match g.current?.bind g.name? with
    | none => g.done
    | some e =>
        (g.insertForeign e.vocabulary
          { tag with name := foreignName e.vocabulary tag.name }).done

/-- An end tag inside MathML or SVG closes the innermost element of its name,
whatever the case of the letters; if HTML is met first, its rules apply. -/
def foreignEnd (g : Growth) (tag : Tag) : Ruled :=
  if tag.name = "br" || tag.name = "p" then g.leaveForeign.rule (.endTag tag)
  else close true g.stack
where
  close (isFirst : Bool) : List Nat → Ruled
    | [] => g.done
    | [_] => g.done
    | n :: outer =>
        if !isFirst && g.isHtml n (fun _ => true) then g.rule (.endTag tag)
        else if g.isNamed n (fun e => lowerAscii e.name.toList = tag.name.toList) then
          { g with stack := outer }.done
        else close false outer

/-- The rule of a token inside MathML or SVG. -/
def ruleForeign (g : Growth) : Token → Ruled
  | .null => (g.addCharacter (withoutNull '\x00')).done
  | .character c => ((if isSpace c then g else g.forbidFrameset).addCharacter c).done
  | .startTag tag => g.foreignStart tag
  | .endTag tag => g.foreignEnd tag
  | _ => g.done

/-- Consider a token until it is used up. -/
def consider : Nat → Growth → Token → Growth
  | 0, g, _ => g
  | fuel + 1, g, token =>
      match (if g.isForeign token then g.ruleForeign token else g.rule token) with
      | (g, true) => consider fuel g token
      | (g, false) => g

/-- Consider a token; every step that leaves it over closes an element or goes on to
a later mode. -/
def use (g : Growth) (token : Token) : Growth :=
  consider (2 * g.stack.length + 64) g token

/-- Take up one token.  A document type counts only at the start. -/
def take (g : Growth) (token : Token) : Growth :=
  let kept := { g with dropsLineFeed := false }
  match token with
  | .doctype _ => if g.mode = .initial then kept.use token else kept
  | .fault => kept
  | .character '\n' => if g.dropsLineFeed then kept else kept.use token
  | _ => kept.use token

end Growth

end Html

end JavadocNames
