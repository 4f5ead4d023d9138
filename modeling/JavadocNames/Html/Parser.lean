import JavadocNames.Html.Foreign

/-!
# Reading a page

The lexer and the building of the tree take turns, because what an element holds
decides how its text is cut into tokens.
-/

namespace JavadocNames

namespace Html

namespace Growth

/-- What the lexer is to expect next. -/
def expects (g : Growth) (content : Content) : Content :=
  g.request.getD content

/-- The current element does not belong to HTML. -/
def inForeign (g : Growth) : Bool :=
  g.currentIs (·.vocabulary ≠ .html)

/-- Build on, from what is left of a text. -/
def read : Nat → Content → Text → Growth → Growth
  | 0, _, _, g => g
  | _, _, [], g => g.take .endOfFile
  | fuel + 1, content, c :: rest, g =>
      match lex content g.inForeign (c :: rest) with
      | (tokens, content, rest) =>
          let g := tokens.foldl take { g with request := none }
          read fuel (g.expects content) rest g

end Growth

/-- The state in which the building of a page ends. -/
def grow (text : Text) : Growth :=
  let text := prepare text
  Growth.empty.read (text.length + 1) .markup text

end Html

end JavadocNames
