import JavadocNames.Html.Reference

/-!
# Cutting a page into tokens

The lexer takes one token, or a few, from the front of a text.  How it reads
depends on the element it is in: the content of some elements is text up to their
end tag, and in scripts a comment can hide an end tag.
-/

namespace JavadocNames

namespace Html

/-- How far into a comment a script is.  `dashes` counts the hyphens just before,
up to two. -/
inductive ScriptState where
  | plain
  | escaped (dashes : Nat)
  /-- Inside a script tag within a comment. -/
  | doubleEscaped (dashes : Nat)

/-- What the lexer expects. -/
inductive Content where
  | markup
  /-- Text with references, up to an end tag. -/
  | text (element : String)
  /-- Text without references, up to an end tag. -/
  | rawText (element : String)
  | script (state : ScriptState)
  /-- Text up to the end of the page. -/
  | plainText

/-- Tokens, what is expected after them, and the text that is left. -/
abbrev Lexed := List Token × Content × Text

/-- A text without the spaces in front. -/
def dropSpaces (text : Text) : Text :=
  text.dropWhile isSpace

/-- The text starts with a word, whatever the case of its letters. -/
def startsWith (word text : Text) : Bool :=
  lowerAscii (text.take word.length) = word

/-! ## Tags -/

/-- A character that ends the name of a tag. -/
def endsTagName (c : Char) : Bool :=
  isSpace c || c = '/' || c = '>'

/-- A character that ends the name of an attribute, unless it is the first. -/
def endsAttributeName (c : Char) : Bool :=
  endsTagName c || c = '='

/-- The name of a tag or attribute as it counts. -/
def canonicalName (text : Text) : String :=
  String.ofList ((lowerAscii text).map withoutNull)

/-- Add an attribute, unless there is one of that name. -/
def addAttribute (attributes : Attributes) (name : String) (value : Text) : Attributes :=
  if (attribute? name attributes).isSome then attributes
  else attributes ++ [(name, String.ofList (decodeValue value.length value))]

/-- The value of an attribute, after the equals sign; `none` when the text ends
inside quotes. -/
def readValue (text : Text) : Option (Text × Text) :=
  match dropSpaces text with
  | '"' :: rest => quoted '"' rest
  | '\'' :: rest => quoted '\'' rest
  | '>' :: rest => some ([], '>' :: rest)
  | rest => some (rest.takeWhile unquoted, rest.dropWhile unquoted)
where
  quoted (quote : Char) (rest : Text) : Option (Text × Text) :=
    match rest.dropWhile (· ≠ quote) with
    | [] => none
    | _ :: after => some (rest.takeWhile (· ≠ quote), after)
  unquoted (c : Char) : Bool :=
    !isSpace c && c ≠ '>'

/-- Dropping spaces leaves no more text than there was. -/
theorem dropSpaces_length_le (text : Text) : (dropSpaces text).length ≤ text.length :=
  (List.dropWhile_sublist _).length_le

/-- Reading a value leaves no more text than there was. -/
theorem readValue_length_le {text value rest : Text}
    (h : readValue text = some (value, rest)) : rest.length ≤ text.length := by
  have spaces := dropSpaces_length_le text
  have inQuotes : ∀ (quote : Char) (inside : Text),
      readValue.quoted quote inside = some (value, rest) →
        rest.length ≤ inside.length := by
    intro quote inside hq
    have shorter := (List.dropWhile_sublist (l := inside) (· ≠ quote)).length_le
    simp only [readValue.quoted] at hq
    split at hq
    · simp at hq
    · next after hd =>
        simp only [Option.some.injEq, Prod.mk.injEq] at hq
        rw [hd, List.length_cons, hq.2] at shorter
        omega
  unfold readValue at h
  split at h
  · next inside hs =>
      have := inQuotes _ _ h
      rw [hs, List.length_cons] at spaces
      omega
  · next inside hs =>
      have := inQuotes _ _ h
      rw [hs, List.length_cons] at spaces
      omega
  · next inside hs =>
      simp only [Option.some.injEq, Prod.mk.injEq] at h
      rw [hs] at spaces
      rw [← h.2]
      exact spaces
  · simp only [Option.some.injEq, Prod.mk.injEq] at h
    rw [← h.2]
    exact Nat.le_trans (List.dropWhile_sublist _).length_le spaces

/-- Attributes up to the end of a tag, with its final slash if it has one; `none`
when the page ends inside the tag. -/
def readAttributes (attributes : Attributes) (text : Text) :
    Option (Attributes × Bool × Text) :=
  match _hs : dropSpaces text with
  | [] => none
  | '>' :: rest => some (attributes, false, rest)
  | '/' :: '>' :: rest => some (attributes, true, rest)
  | '/' :: rest => readAttributes attributes rest
  | c :: rest =>
      let name := canonicalName (c :: rest.takeWhile (!endsAttributeName ·))
      match _ha : dropSpaces (rest.dropWhile (!endsAttributeName ·)) with
      | '=' :: after =>
          match _hv : readValue after with
          | none => none
          | some (value, behind) => readAttributes (addAttribute attributes name value) behind
      | after => readAttributes (addAttribute attributes name []) after
termination_by text.length
decreasing_by
  all_goals
    have spaces := dropSpaces_length_le text
    rw [_hs, List.length_cons] at spaces
  · omega
  all_goals
    have named := dropSpaces_length_le (rest.dropWhile (!endsAttributeName ·))
    have name := (List.dropWhile_sublist (l := rest) (!endsAttributeName ·)).length_le
    rw [_ha] at named
  · have := readValue_length_le _hv
    rw [List.length_cons] at named
    omega
  · omega

/-- A tag from its name on; nothing when the page ends inside it. -/
def readTag (make : Tag → Token) (text : Text) : Lexed :=
  let name := text.takeWhile (!endsTagName ·)
  let rest := text.dropWhile (!endsTagName ·)
  match readAttributes [] rest with
  | some (attributes, selfClosing, rest) =>
      ([make ⟨canonicalName name, attributes, selfClosing⟩], .markup, rest)
  | none => ([], .markup, [])

/-- The end tag of an element at the start of a text. -/
def readEndTag? (element : String) (text : Text) : Option Lexed :=
  match text with
  | '<' :: '/' :: rest =>
      if startsWith element.toList rest &&
          (rest.drop element.length).head?.any endsTagName then
        some (readTag .endTag rest)
      else none
  | _ => none

/-! ## Comments and document types -/

/-- The text after the end of a comment, which is `-->` or `--!>`. -/
def afterComment : Text → Text
  | [] => []
  | '-' :: '-' :: '>' :: rest => rest
  | '-' :: '-' :: '!' :: '>' :: rest => rest
  | _ :: rest => afterComment rest

/-- The text after a comment, from behind its opening `<!--`. -/
def skipComment : Text → Text
  | '>' :: rest => rest
  | '-' :: '>' :: rest => rest
  | rest => afterComment rest

/-- The text after the next `>`. -/
def afterBracket (text : Text) : Text :=
  (text.dropWhile (· ≠ '>')).drop 1

/-- An identifier up to its closing quote, and whether the quote came; a `>` ends
it as well. -/
def readIdentifier (quote : Char) (text : Text) : Text × Bool × Text :=
  let inside := fun c => c ≠ quote && c ≠ '>'
  let id := (text.takeWhile inside).map withoutNull
  match text.dropWhile inside with
  | c :: rest => if c = quote then (id, true, rest) else (id, false, c :: rest)
  | [] => (id, false, [])

/-- The rest of a document type after its last identifier. -/
def endDoctype (d : Doctype) (text : Text) : Doctype × Text :=
  match dropSpaces text with
  | [] => ({ d with malformed := true }, [])
  | '>' :: rest => (d, rest)
  | rest => (d, afterBracket rest)

/-- A malformed document type, up to its end. -/
def spoilDoctype (d : Doctype) (text : Text) : Doctype × Text :=
  ({ d with malformed := true }, afterBracket text)

/-- The identifier of the system, where it is required. -/
def readSystemId (d : Doctype) (text : Text) : Doctype × Text :=
  match dropSpaces text with
  | '"' :: rest => identifier '"' rest
  | '\'' :: rest => identifier '\'' rest
  | rest => spoilDoctype d rest
where
  identifier (quote : Char) (rest : Text) : Doctype × Text :=
    let (id, closed, rest) := readIdentifier quote rest
    let d := { d with systemId := some id }
    if closed then endDoctype d rest else spoilDoctype d rest

/-- The public identifier and the identifier of the system, if one follows. -/
def readPublicId (d : Doctype) (text : Text) : Doctype × Text :=
  match dropSpaces text with
  | '"' :: rest => identifier '"' rest
  | '\'' :: rest => identifier '\'' rest
  | rest => spoilDoctype d rest
where
  identifier (quote : Char) (rest : Text) : Doctype × Text :=
    let (id, closed, rest) := readIdentifier quote rest
    let d := { d with publicId := some id }
    if closed then
      match dropSpaces rest with
      | '>' :: rest => (d, rest)
      | rest => readSystemId d rest
    else spoilDoctype d rest

/-- A document type, after the word that introduces it. -/
def readDoctype (text : Text) : Doctype × Text :=
  let none : Doctype := ⟨.none, .none, .none, false⟩
  match dropSpaces text with
  | [] => ({ none with malformed := true }, [])
  | '>' :: rest => ({ none with malformed := true }, rest)
  | text =>
      let inName := fun c => !isSpace c && c ≠ '>'
      let d := { none with name := some ((lowerAscii (text.takeWhile inName)).map withoutNull) }
      match dropSpaces (text.dropWhile inName) with
      | [] => ({ d with malformed := true }, [])
      | '>' :: rest => (d, rest)
      | rest =>
          if startsWith "public".toList rest then readPublicId d (rest.drop 6)
          else if startsWith "system".toList rest then readSystemId d (rest.drop 6)
          else spoilDoctype d rest

/-- Character data up to `]]>`. -/
def readCharacterData : Text → List Token × Text
  | [] => ([], [])
  | ']' :: ']' :: '>' :: rest => ([], rest)
  | c :: rest =>
      let (tokens, after) := readCharacterData rest
      ((if c = '\x00' then .null else .character c) :: tokens, after)

/-- What follows `<!`.  Character data is known in foreign elements only. -/
def readDeclaration (foreign : Bool) (text : Text) : Lexed :=
  match text with
  | '-' :: '-' :: rest => ([.comment], .markup, skipComment rest)
  | _ =>
      if startsWith "doctype".toList text then
        let (d, rest) := readDoctype (text.drop 7)
        ([.doctype d], .markup, rest)
      else if foreign && "[CDATA[".toList.isPrefixOf text then
        let (tokens, rest) := readCharacterData (text.drop 7)
        (tokens, .markup, rest)
      else ([.comment], .markup, afterBracket text)

/-- What follows `<` in markup. -/
def readMarkup (foreign : Bool) (text : Text) : Lexed :=
  match text with
  | '!' :: rest => readDeclaration foreign rest
  | '?' :: _ => ([.comment], .markup, afterBracket text)
  | '/' :: [] => ([.character '<', .character '/'], .markup, [])
  | '/' :: '>' :: rest => ([.fault], .markup, rest)
  | '/' :: c :: rest =>
      if c.isAlpha then readTag .endTag (c :: rest)
      else ([.comment], .markup, afterBracket (c :: rest))
  | c :: rest =>
      if c.isAlpha then readTag .startTag (c :: rest)
      else ([.character '<'], .markup, c :: rest)
  | [] => ([.character '<'], .markup, [])

/-! ## Scripts -/

/-- The letters of a tag name at the start of a text, with the character that ends
them, when they are followed by one that ends a tag name. -/
def tagWord? (text : Text) : Option (Text × Char) :=
  match text.dropWhile Char.isAlpha with
  | c :: _ => if endsTagName c then some (text.takeWhile Char.isAlpha, c) else none
  | [] => none

/-- One more hyphen. -/
def moreDashes (dashes : Nat) : Nat :=
  if dashes < 2 then dashes + 1 else dashes

/-- Take characters over as they are. -/
def literalTokens (text : Text) : List Token :=
  text.map fun c => .character (withoutNull c)

/-- One step through a script, up to its end tag. -/
def readScript (state : ScriptState) (text : Text) : Lexed :=
  match state, text with
  | _, [] => ([], .script state, [])
  | .plain, '<' :: '!' :: '-' :: '-' :: rest =>
      (literalTokens "<!--".toList, .script (.escaped 2), rest)
  | .plain, c :: rest =>
      match readEndTag? "script" text with
      | some lexed => lexed
      | none => (literalTokens [c], .script .plain, rest)
  | .escaped dashes, c :: rest =>
      match readEndTag? "script" text with
      | some lexed => lexed
      | none =>
          if c = '-' then (literalTokens [c], .script (.escaped (moreDashes dashes)), rest)
          else if c = '>' && dashes = 2 then (literalTokens [c], .script .plain, rest)
          else if c = '<' && rest.head?.any Char.isAlpha then
            match tagWord? rest with
            | some (word, stop) =>
                (literalTokens (c :: word ++ [stop]),
                  .script (if lowerAscii word = "script".toList then .doubleEscaped 0
                    else .escaped 0),
                  rest.drop (word.length + 1))
            | none => (literalTokens [c], .script (.escaped 0), rest)
          else (literalTokens [c], .script (.escaped 0), rest)
  | .doubleEscaped dashes, c :: rest =>
      if c = '-' then
        (literalTokens [c], .script (.doubleEscaped (moreDashes dashes)), rest)
      else if c = '>' && dashes = 2 then (literalTokens [c], .script .plain, rest)
      else
        match c, rest with
        | '<', '/' :: more =>
            match tagWord? more with
            | some (word, stop) =>
                (literalTokens ('<' :: '/' :: word ++ [stop]),
                  .script (if lowerAscii word = "script".toList then .escaped 0
                    else .doubleEscaped 0),
                  more.drop (word.length + 1))
            | none => (literalTokens ['<', '/'], .script (.doubleEscaped 0), more)
        | _, _ => (literalTokens [c], .script (.doubleEscaped 0), rest)

/-! ## All kinds of content -/

/-- Take tokens from the front of a text that is not empty.  `foreign` tells
whether the current element is foreign. -/
def lex (content : Content) (foreign : Bool) (text : Text) : Lexed :=
  match content, text with
  | content, [] => ([], content, [])
  | .markup, '<' :: rest => readMarkup foreign rest
  | .markup, '&' :: rest => reference content rest
  | .markup, c :: rest =>
      ([if c = '\x00' then .null else .character c], .markup, rest)
  | .text element, c :: rest =>
      match readEndTag? element text with
      | some lexed => lexed
      | none =>
          if c = '&' then reference content rest
          else (literalTokens [c], content, rest)
  | .rawText element, c :: rest =>
      match readEndTag? element text with
      | some lexed => lexed
      | none => (literalTokens [c], content, rest)
  | .script state, text => readScript state text
  | .plainText, c :: rest => (literalTokens [c], content, rest)
where
  reference (content : Content) (rest : Text) : Lexed :=
    match readReference false rest with
    | some (['\n'], after) =>
        let spelling := rest.take (rest.length - after.length)
        let mark := if spelling.getLast? = some ';' then [] else [.fault]
        (mark ++ [.character '\n'], content, after)
    | some (characters, after) => (characters.map .character, content, after)
    | none => ([.character '&'], content, rest)

/-- The text of a page as the lexer reads it: without a byte order mark, and with
`\n` for each line end. -/
def prepare (text : Text) : Text :=
  let unmarked := match text with
    | '\uFEFF' :: rest => rest
    | _ => text
  Text.replace ['\r'] ['\n'] (Text.replace ['\r', '\n'] ['\n'] unmarked)

end Html

end JavadocNames
