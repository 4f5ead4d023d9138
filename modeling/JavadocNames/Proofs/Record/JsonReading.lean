import JavadocNames.Proofs.Text.Decimal
import JavadocNames.Record.Json

/-!
# Reading JSON objects

A reader of JSON objects whose values are strings and natural numbers.  It knows all of
JSON's spellings of a character and allows white space between tokens, and it is stated
apart from the writer.  Reading an object that was written gives back its fields.
-/

namespace JavadocNames

namespace Json

/-! ## Strings -/

/-- The value of a hexadecimal digit, in lower or upper case. -/
def hexValue? (c : Char) : Option Nat :=
  if '0' ≤ c ∧ c ≤ '9' then some (c.toNat - '0'.toNat)
  else if 'a' ≤ c ∧ c ≤ 'f' then some (c.toNat - 'a'.toNat + 10)
  else if 'A' ≤ c ∧ c ≤ 'F' then some (c.toNat - 'A'.toNat + 10)
  else none

/-- The number spelled by the first four characters. -/
def codeUnit? : Text → Option Nat
  | a :: b :: c :: d :: _ => do
      return (← hexValue? a) * 4096 + (← hexValue? b) * 256 + (← hexValue? c) * 16 +
        (← hexValue? d)
  | _ => none

/-- The character spelled by a code behind `\u`.  A character beyond U+FFFF is spelled by
two codes, and half of it by none. -/
def coded? (code : Text) : Option (Char × Nat) :=
  match codeUnit? code with
  | none => none
  | some n =>
      if 0xD800 ≤ n ∧ n < 0xDC00 then
        match code.drop 4 with
        | '\\' :: 'u' :: second =>
            match codeUnit? second with
            | some m =>
                if 0xDC00 ≤ m ∧ m < 0xE000 then
                  some (Char.ofNat (0x10000 + (n - 0xD800) * 0x400 + (m - 0xDC00)), 12)
                else none
            | none => none
        | _ => none
      else if 0xDC00 ≤ n ∧ n < 0xE000 then none
      else some (Char.ofNat n, 6)

/-- The character that a letter spells behind a backslash. -/
def lettered? : Char → Option Char
  | '"' => some '"'
  | '\\' => some '\\'
  | '/' => some '/'
  | 'b' => some '\x08'
  | 'f' => some '\x0c'
  | 'n' => some '\n'
  | 'r' => some '\r'
  | 't' => some '\t'
  | _ => none

/-- The character spelled at the front of a text inside a string, and the number of
characters that spell it. -/
def spelled? : Text → Option (Char × Nat)
  | [] => none
  | c :: rest =>
      if c = '\\' then
        match rest with
        | [] => none
        | letter :: code =>
            if letter = 'u' then coded? code else (lettered? letter).map fun d => (d, 2)
      else if c = '"' ∨ c.toNat < 0x20 then none
      else some (c, 1)

/-- The contents of a string from the `skip`-th character on, and the number of characters
up to its closing quote. -/
def stringFrom? : Nat → Text → Option (Text × Nat)
  | _, [] => none
  | skip + 1, _ :: rest => stringFrom? skip rest
  | 0, c :: rest =>
      if c = '"' then some ([], 1)
      else
        match spelled? (c :: rest) with
        | none => none
        | some (first, n) =>
            (stringFrom? (n - 1) rest).map fun (more, length) => (first :: more, n + length)

/-- The contents of a string, behind its opening quote. -/
def string? (text : Text) : Option (Text × Nat) :=
  stringFrom? 0 text

theorem stringFrom?_eq (skip : Nat) (text : Text) :
    stringFrom? skip text = string? (text.drop skip) := by
  induction skip generalizing text with
  | zero => rfl
  | succ skip ih =>
      cases text with
      | nil => rfl
      | cons c rest => exact ih rest

/-- A control character is spelled by a code of two digits. -/
theorem codeUnit?_control {n : Nat} (h : n < 0x20) (rest : Text) :
    codeUnit? ('0' :: '0' :: hexDigit (n / 16) :: hexDigit (n % 16) :: rest) = some n := by
  have hall : ∀ m < 0x20, codeUnit? ['0', '0', hexDigit (m / 16), hexDigit (m % 16)] = some m := by
    decide
  exact hall n h

/-- Every character is read from its spelling. -/
theorem spelled?_escape (c : Char) (rest : Text) :
    spelled? (escape c ++ rest) = some (c, (escape c).length) := by
  unfold escape
  -- Seven characters are spelled by a letter.
  iterate 7
    split
    · subst_vars
      rfl
  split
  · rename_i hcontrol
    have hcode := codeUnit?_control hcontrol rest
    have hhigh : ¬ (0xD800 ≤ c.toNat ∧ c.toNat < 0xDC00) := by omega
    have hlow : ¬ (0xDC00 ≤ c.toNat ∧ c.toNat < 0xE000) := by omega
    simp only [List.cons_append, List.nil_append, spelled?, if_true, coded?, hcode,
      if_neg hhigh, if_neg hlow, Char.ofNat_toNat]
    rfl
  · rename_i hquote hback _ _ _ _ _ hcontrol
    simp only [List.cons_append, List.nil_append, spelled?, if_neg hback, hquote, hcontrol,
      or_self, if_false]
    rfl

/-- A spelling is not empty and does not look like the end of a string. -/
theorem exists_escape_eq_cons (c : Char) :
    ∃ first more, escape c = first :: more ∧ first ≠ '"' := by
  have hspelled := spelled?_escape c []
  cases hform : escape c with
  | nil =>
      rw [hform] at hspelled
      contradiction
  | cons first more =>
      refine ⟨first, more, rfl, ?_⟩
      rintro rfl
      rw [hform] at hspelled
      contradiction

theorem string?_escape_append (c : Char) (rest : Text) :
    string? (escape c ++ rest) =
      (string? rest).map fun (more, length) => (c :: more, (escape c).length + length) := by
  have hspelled := spelled?_escape c rest
  obtain ⟨first, more, hform, hfirst⟩ := exists_escape_eq_cons c
  rw [hform] at hspelled ⊢
  rw [List.cons_append] at hspelled ⊢
  rw [string?, stringFrom?, if_neg hfirst, hspelled]
  simp only [List.length_cons, Nat.add_sub_cancel, stringFrom?_eq, List.drop_left]

/-- A quoted text is read up to its closing quote, whatever follows. -/
theorem string?_flatMap_escape_append (text rest : Text) :
    string? (text.flatMap escape ++ '"' :: rest) =
      some (text, (text.flatMap escape).length + 1) := by
  induction text with
  | nil => rfl
  | cons c text ih =>
      rw [List.flatMap_cons, List.append_assoc, string?_escape_append, ih, Option.map_some,
        List.length_append, Nat.add_assoc]

/-! ## Tokens -/

/-- A value in an object. -/
inductive Value where
  | string (text : Text)
  | number (n : Nat)
  deriving DecidableEq

inductive Token where
  | opening
  | closing
  | colon
  | comma
  | value (v : Value)
  deriving DecidableEq

/-- White space between tokens. -/
def isSpace (c : Char) : Bool :=
  c = ' ' || c = '\t' || c = '\n' || c = '\r'

/-- A natural number, without a zero in front, and the number of its digits. -/
def number? (text : Text) : Option (Nat × Nat) :=
  let digits := text.takeWhile Char.isDigit
  if digits = [] ∨ (digits.head? = some '0' ∧ digits ≠ ['0']) then none
  else some (Nat.ofDigitChars 10 digits 0, digits.length)

/-- The token at the front of a text, and the number of characters that it takes. -/
def token? : Text → Option (Token × Nat)
  | '{' :: _ => some (.opening, 1)
  | '}' :: _ => some (.closing, 1)
  | ':' :: _ => some (.colon, 1)
  | ',' :: _ => some (.comma, 1)
  | '"' :: rest => (string? rest).map fun (text, length) => (.value (.string text), length + 1)
  | text => (number? text).map fun (n, length) => (.value (.number n), length)

/-- The tokens of a text from its `skip`-th character on. -/
def tokensFrom? : Nat → Text → Option (List Token)
  | _, [] => some []
  | skip + 1, _ :: rest => tokensFrom? skip rest
  | 0, c :: rest =>
      match token? (c :: rest) with
      | some (token, length) => (tokensFrom? (length - 1) rest).map (token :: ·)
      | none => if isSpace c then tokensFrom? 0 rest else none

/-- The tokens of a text, in order. -/
def tokens? (text : Text) : Option (List Token) :=
  tokensFrom? 0 text

theorem tokensFrom?_eq (skip : Nat) (text : Text) :
    tokensFrom? skip text = tokens? (text.drop skip) := by
  induction skip generalizing text with
  | zero => rfl
  | succ skip ih =>
      cases text with
      | nil => rfl
      | cons c rest => exact ih rest

/-- What is read as a token is the first one, and the others are those of the rest. -/
theorem tokens?_append {front : Text} (rest : Text) {token : Token} (hfront : front ≠ [])
    (h : token? (front ++ rest) = some (token, front.length)) :
    tokens? (front ++ rest) = (tokens? rest).map (token :: ·) := by
  cases front with
  | nil => contradiction
  | cons c front =>
      rw [List.cons_append] at h ⊢
      rw [tokens?, tokensFrom?, h]
      simp only [List.length_cons, Nat.add_sub_cancel, tokensFrom?_eq, List.drop_left]

theorem token?_quoted_append (text rest : Text) :
    token? (quoted text ++ rest) = some (.value (.string text), (quoted text).length) := by
  have hstring := string?_flatMap_escape_append text rest
  have hquoted : quoted text ++ rest = '"' :: (text.flatMap escape ++ '"' :: rest) := by
    rw [quoted, List.cons_append, List.cons_append, List.append_assoc, List.singleton_append]
  rw [hquoted, token?, hstring]
  simp [quoted]

/-- A number is read up to its last digit. -/
theorem number?_decimal_append (n : Nat) {rest : Text}
    (hrest : ∀ c ∈ rest.head?, c.isDigit = false) :
    number? (Text.decimal n ++ rest) = some (n, (Text.decimal n).length) := by
  have hstop : rest.takeWhile Char.isDigit = [] := by
    cases rest with
    | nil => rfl
    | cons c rest => rw [List.takeWhile_cons_of_neg (by simp [hrest c rfl])]
  have hdigits : (Text.decimal n ++ rest).takeWhile Char.isDigit = Text.decimal n := by
    rw [List.takeWhile_append_of_pos fun c hc => Text.isDigit_of_mem_decimal hc, hstop,
      List.append_nil]
  have hform : ¬ (Text.decimal n = [] ∨
      ((Text.decimal n).head? = some '0' ∧ Text.decimal n ≠ ['0'])) := by
    rintro (hnil | ⟨hzero, hlong⟩)
    · exact Text.decimal_ne_nil n hnil
    · rcases Nat.eq_zero_or_pos n with rfl | hpos
      · exact hlong rfl
      · exact Text.head?_decimal hpos hzero
  simp only [number?, hdigits, if_neg hform, Text.ofDigitChars_decimal]

theorem token?_decimal_append (n : Nat) {rest : Text}
    (hrest : ∀ c ∈ rest.head?, c.isDigit = false) :
    token? (Text.decimal n ++ rest) =
      some (.value (.number n), (Text.decimal n).length) := by
  have hnumber := number?_decimal_append n hrest
  cases hdigits : Text.decimal n with
  | nil => exact absurd hdigits (Text.decimal_ne_nil n)
  | cons c digits =>
      have hc : c.isDigit = true := by
        apply Text.isDigit_of_mem_decimal (n := n)
        rw [hdigits]
        exact List.mem_cons_self
      rw [hdigits, List.cons_append] at hnumber
      rw [List.cons_append, token?, hnumber]
      · rfl
      -- A digit is none of the characters that start other tokens.
      all_goals
        rintro _ heq
        obtain ⟨rfl, -⟩ := List.cons.inj heq
        contradiction

/-- A value as it is written. -/
def Value.written : Value → Text
  | string text => quoted text
  | number n => Text.decimal n

theorem tokens?_written_append (v : Value) (rest : Text)
    (hrest : ∀ c ∈ rest.head?, c.isDigit = false) :
    tokens? (v.written ++ rest) = (tokens? rest).map (.value v :: ·) := by
  cases v with
  | string text => exact tokens?_append rest (List.cons_ne_nil _ _) (token?_quoted_append text rest)
  | number n => exact tokens?_append rest (Text.decimal_ne_nil n) (token?_decimal_append n hrest)

theorem tokens?_opening (rest : Text) :
    tokens? ('{' :: rest) = (tokens? rest).map (.opening :: ·) :=
  tokens?_append rest (List.cons_ne_nil '{' []) rfl

theorem tokens?_colon (rest : Text) :
    tokens? (':' :: rest) = (tokens? rest).map (.colon :: ·) :=
  tokens?_append rest (List.cons_ne_nil ':' []) rfl

theorem tokens?_comma (rest : Text) :
    tokens? (',' :: rest) = (tokens? rest).map (.comma :: ·) :=
  tokens?_append rest (List.cons_ne_nil ',' []) rfl

/-! ## Objects -/

/-- The fields of an object behind its opening brace, if there is one field at least. -/
def fields? : List Token → Option (List (Text × Value))
  | [.value (.string name), .colon, .value v, .closing] => some [(name, v)]
  | .value (.string name) :: .colon :: .value v :: .comma :: rest =>
      (fields? rest).map ((name, v) :: ·)
  | _ => none

/-- The fields of an object, in order. -/
def object? (text : Text) : Option (List (Text × Value)) :=
  match tokens? text with
  | some [.opening, .closing] => some []
  | some (.opening :: rest) => fields? rest
  | _ => none

/-- A field as it is written. -/
def writtenField (f : Text × Value) : Text :=
  field f.1 f.2.written

theorem tokens?_writtenField_append (f : Text × Value) (rest : Text)
    (hrest : ∀ c ∈ rest.head?, c.isDigit = false) :
    tokens? (writtenField f ++ rest) =
      (tokens? rest).map fun tokens =>
        .value (.string f.1) :: .colon :: .value f.2 :: tokens := by
  have hname := tokens?_written_append (.string f.1) (':' :: (f.2.written ++ rest)) (by simp)
  have hfield : writtenField f ++ rest =
      (Value.string f.1).written ++ ':' :: (f.2.written ++ rest) := by
    rw [writtenField, field, List.append_assoc, List.cons_append]
    rfl
  rw [hfield, hname, tokens?_colon, tokens?_written_append f.2 rest hrest, Option.map_map,
    Option.map_map]
  rfl

/-- Fields that are joined by commas and closed by a brace are read one by one. -/
theorem tokens?_join_bind_fields? (f : Text × Value) (fields : List (Text × Value)) :
    ∃ tokens, tokens? (Text.join [','] ((f :: fields).map writtenField) ++ ['}']) = some tokens ∧
      fields? tokens = some (f :: fields) := by
  induction fields generalizing f with
  | nil =>
      have hlast := tokens?_writtenField_append f ['}'] (by simp)
      rw [show tokens? ['}'] = some [.closing] from rfl, Option.map_some] at hlast
      refine ⟨[.value (.string f.1), .colon, .value f.2, .closing], ?_, rfl⟩
      rw [List.map_singleton, Text.join, List.intercalate_singleton, hlast]
  | cons g fields ih =>
      obtain ⟨tokens, htokens, hread⟩ := ih g
      have hjoin : Text.join [','] ((f :: g :: fields).map writtenField) ++ ['}'] =
          writtenField f ++ ',' :: (Text.join [','] ((g :: fields).map writtenField) ++ ['}']) := by
        rw [Text.join, List.map_cons, List.map_cons, List.intercalate_cons_cons]
        simp [Text.join]
      have hfirst := tokens?_writtenField_append f
        (',' :: (Text.join [','] ((g :: fields).map writtenField) ++ ['}'])) (by simp)
      rw [tokens?_comma, htokens, Option.map_some, Option.map_some] at hfirst
      refine ⟨_, hjoin ▸ hfirst, ?_⟩
      rw [fields?, hread, Option.map_some]

/-- Reading an object that was written gives back its fields. -/
theorem object?_object (fields : List (Text × Value)) :
    object? (object (fields.map writtenField)) = some fields := by
  cases fields with
  | nil => decide
  | cons f fields =>
      obtain ⟨tokens, htokens, hread⟩ := tokens?_join_bind_fields? f fields
      have hopening := tokens?_opening
        (Text.join [','] ((f :: fields).map writtenField) ++ ['}'])
      rw [htokens, Option.map_some] at hopening
      have hform : object ((f :: fields).map writtenField) =
          '{' :: (Text.join [','] ((f :: fields).map writtenField) ++ ['}']) := rfl
      rw [hform, object?, hopening]
      cases tokens with
      | nil => contradiction
      | cons token tokens =>
          cases token <;> first | contradiction | exact hread

/-- Other spellings of characters and white space are read too. -/
example : object? "\x7b \"a\" :\"\\u00c4\\uD83d\\uDe00\\/\",\t\"b\":10 \x7d".toList =
    some [("a".toList, .string "Ä😀/".toList), ("b".toList, .number 10)] := by
  decide +kernel

end Json

end JavadocNames
