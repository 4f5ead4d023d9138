import JavadocNames.Proofs.Signature.RowText
import JavadocNames.Proofs.Signature.Tokens

/-!
# Rendered signatures

A row shows a signature as the name of the method and its parameters in parentheses.
Type and name of a parameter stand apart by one space, which may be spelled or be a line
end, and behind a comma there may be white space of any kind.  What the standard pattern
reads off the row text is the signature that was rendered.
-/

namespace JavadocNames

namespace Rendering

/-- What stands between a type and its name. -/
inductive Gap where
  | space
  | noBreak
  | spelled
  | lineFeed
  | lineEnd
  deriving DecidableEq

def Gap.text : Gap → Text
  | space => [' ']
  | noBreak => ['\u00A0']
  | spelled => "&nbsp;".toList
  | lineFeed => ['\n']
  | lineEnd => ['\r', '\n']

/-- A piece of the white space behind a comma, as it stands or spelled. -/
inductive Filler where
  | blank (c : Char) (isBlank : Text.isBlank c = true)
  | spelled
  deriving DecidableEq

def Filler.text : Filler → Text
  | blank c _ => [c]
  | spelled => "&nbsp;".toList

/-- A parameter as it is laid out. -/
structure Layout where
  parameter : Parameter
  gap : Gap
  /-- The white space between the comma before the parameter and its type; the first
  parameter has no comma before it, and none of this. -/
  fillers : List Filler

def Layout.text (layout : Layout) : Text :=
  layout.parameter.typeName ++ (layout.gap.text ++ layout.parameter.name)

/-- The parameters behind the first one, and the closing parenthesis. -/
def further : List Layout → Text
  | [] => [')']
  | layout :: rest =>
      ',' :: (layout.fillers.flatMap Filler.text ++ (layout.text ++ further rest))

/-- All parameters and the closing parenthesis. -/
def inside : List Layout → Text
  | [] => [')']
  | layout :: rest => layout.text ++ further rest

/-- A signature as a row shows it. -/
def render (name : Text) (layouts : List Layout) : Text :=
  name ++ '(' :: inside layouts

/-- A method name that can stand in front of a parenthesis. -/
structure IsPlainName (name : Text) : Prop where
  noParenthesis : '(' ∉ name
  noReference : '&' ∉ name
  noBlank : ∀ c ∈ name, Text.isBlank c = false

/-- A parameter without type arguments: a type of word characters, dots and brackets,
and a name of word characters. -/
structure IsPlain (p : Parameter) : Prop where
  type_ne_nil : p.typeName ≠ []
  type : ∀ c ∈ p.typeName, Text.isWord c ∨ c = '.' ∨ c = '[' ∨ c = ']'
  name_ne_nil : p.name ≠ []
  name : ∀ c ∈ p.name, Text.isWord c

theorem isPlainName_iff {name : Text} :
    IsPlainName name ↔
      '(' ∉ name ∧ '&' ∉ name ∧ name.all (fun c => !Text.isBlank c) = true := by
  simp only [List.all_eq_true, Bool.not_eq_true']
  constructor
  · intro h
    exact ⟨h.noParenthesis, h.noReference, h.noBlank⟩
  · rintro ⟨parenthesis, reference, blank⟩
    exact ⟨parenthesis, reference, blank⟩

theorem isPlain_iff {p : Parameter} :
    IsPlain p ↔ p.typeName ≠ [] ∧ p.typeName.all Text.isTypeChar = true ∧
      p.name ≠ [] ∧ p.name.all Text.isWord = true := by
  have htype : ∀ c, Text.isTypeChar c = true ↔
      Text.isWord c ∨ c = '.' ∨ c = '[' ∨ c = ']' := by
    intro c
    simp [Text.isTypeChar, or_assoc]
  simp only [List.all_eq_true, htype]
  constructor
  · intro h
    exact ⟨h.type_ne_nil, h.type, h.name_ne_nil, h.name⟩
  · rintro ⟨typeNe, type, nameNe, name⟩
    exact ⟨typeNe, type, nameNe, name⟩

instance (name : Text) : Decidable (IsPlainName name) :=
  decidable_of_iff _ isPlainName_iff.symm

instance (p : Parameter) : Decidable (IsPlain p) :=
  decidable_of_iff _ isPlain_iff.symm

theorem IsPlain.isTypeChar {p : Parameter} (h : IsPlain p) :
    ∀ c ∈ p.typeName, Text.isTypeChar c = true :=
  List.all_eq_true.mp (isPlain_iff.mp h).2.1

/-! ## Row text of a rendered signature -/

open RowText

theorem isCopied_of_not_blank {c : Char} (hreference : c ≠ '&')
    (hblank : Text.isBlank c = false) : isCopied c = true := by
  have hne : ∀ d, Text.isBlank d = true → c ≠ d := by
    rintro d hd rfl
    rw [hd] at hblank
    contradiction
  simp only [isCopied, Bool.and_eq_true, decide_eq_true_eq]
  exact ⟨⟨⟨hreference, hne '\r' (by decide)⟩, hne '\n' (by decide)⟩,
    hne noBreakSpace (by decide)⟩

theorem isCopied_of_isTypeChar {c : Char} (h : Text.isTypeChar c = true) :
    isCopied c = true := by
  have hne : ∀ d, Text.isTypeChar d = false → c ≠ d := by
    rintro d hd rfl
    rw [hd] at h
    contradiction
  have hblank : Text.isBlank c = false := by
    rw [Bool.eq_false_iff]
    intro hc
    exact hne c (Extractor.isTypeChar_of_isBlank hc) rfl
  exact isCopied_of_not_blank (hne '&' (by decide)) hblank

theorem isTypeChar_of_isWord {c : Char} (h : Text.isWord c = true) :
    Text.isTypeChar c = true := by
  simp [Text.isTypeChar, h]

/-- Every gap becomes one space. -/
theorem normalize_gap (gap : Gap) (rest : Text) :
    normalize (gap.text ++ rest) = ' ' :: normalize rest := by
  cases gap with
  | space => exact normalize_cons_of_isCopied (by decide) rest
  | noBreak => exact normalize_noBreak rest
  | spelled => exact normalize_spelled rest
  | lineFeed => exact normalize_lineFeed rest
  | lineEnd => exact normalize_lineEnd rest

theorem normalize_layout {layout : Layout} (h : IsPlain layout.parameter) (rest : Text) :
    normalize (layout.text ++ rest) =
      layout.parameter.typeName ++ ' ' :: (layout.parameter.name ++ normalize rest) := by
  have htype : ∀ c ∈ layout.parameter.typeName, isCopied c = true :=
    fun c hc => isCopied_of_isTypeChar (h.isTypeChar c hc)
  have hname : ∀ c ∈ layout.parameter.name, isCopied c = true :=
    fun c hc => isCopied_of_isTypeChar (isTypeChar_of_isWord (h.name c hc))
  rw [Layout.text, List.append_assoc, normalize_append_of_isCopied htype, List.append_assoc,
    normalize_gap, normalize_append_of_isCopied hname]

/-- White space gives no token, whatever becomes of it. -/
theorem tokens_normalize_filler (filler : Filler) (rest : Text) :
    tokens (normalize (filler.text ++ rest)) = tokens (normalize rest) := by
  have hspace : Text.isTypeChar ' ' = false := by decide
  cases filler with
  | spelled =>
      rw [show Filler.spelled.text = spelledSpace from rfl, normalize_spelled,
        tokens_cons_of_not_typeChar hspace]
  | blank c hc =>
      have hreference : c ≠ '&' := by
        rintro rfl
        exact absurd hc (by decide)
      rw [show (Filler.blank c hc).text ++ rest = c :: rest from rfl]
      -- A carriage return may vanish into the line feed behind it.
      rcases normalize_cons_cases hreference rest with hone | hsame | hnone
      · rw [hone, tokens_cons_of_not_typeChar hspace]
      · rw [hsame, tokens_cons_of_not_typeChar (Extractor.isTypeChar_of_isBlank hc)]
      · rw [hnone]

theorem tokens_normalize_fillers (fillers : List Filler) (rest : Text) :
    tokens (normalize (fillers.flatMap Filler.text ++ rest)) = tokens (normalize rest) := by
  induction fillers with
  | nil => rfl
  | cons filler fillers ih =>
      rw [List.flatMap_cons, List.append_assoc, tokens_normalize_filler, ih]

/-- A parameter is one token, if the text behind it does not go on with its name. -/
theorem tokens_normalize_layout {layout : Layout} (h : IsPlain layout.parameter) {rest : Text}
    (hrest : ∀ c ∈ (normalize rest).head?, Text.isWord c = false) :
    tokens (normalize (layout.text ++ rest)) =
      layout.parameter :: tokens (normalize rest) := by
  have htoken := token?_append h.type_ne_nil h.isTypeChar h.name_ne_nil h.name hrest
  rw [normalize_layout h, tokens_of_some htoken, ← List.drop_drop, ← List.drop_drop,
    List.drop_left, List.drop_one, List.tail_cons, List.drop_left]

theorem normalize_further_cons (layout : Layout) (rest : List Layout) :
    normalize (further (layout :: rest)) =
      ',' :: normalize (layout.fillers.flatMap Filler.text ++ (layout.text ++ further rest)) :=
  normalize_cons_of_isCopied (by decide) _

theorem head?_normalize_further (layouts : List Layout) :
    ∀ c ∈ (normalize (further layouts)).head?, Text.isWord c = false := by
  intro c hc
  cases layouts with
  | nil =>
      obtain rfl : c = ')' := (Option.mem_some.mp hc).symm
      decide
  | cons layout rest =>
      rw [normalize_further_cons] at hc
      obtain rfl : c = ',' := (Option.mem_some.mp hc).symm
      decide

theorem tokens_normalize_further {layouts : List Layout}
    (h : ∀ layout ∈ layouts, IsPlain layout.parameter) :
    tokens (normalize (further layouts)) = layouts.map Layout.parameter := by
  induction layouts with
  | nil => decide
  | cons layout rest ih =>
      rw [normalize_further_cons, tokens_cons_of_not_typeChar (by decide),
        tokens_normalize_fillers,
        tokens_normalize_layout (h layout List.mem_cons_self) (head?_normalize_further rest),
        ih fun other hother => h other (List.mem_cons_of_mem layout hother), List.map_cons]

theorem tokens_normalize_inside {layouts : List Layout}
    (h : ∀ layout ∈ layouts, IsPlain layout.parameter) :
    tokens (normalize (inside layouts)) = layouts.map Layout.parameter := by
  cases layouts with
  | nil => decide
  | cons layout rest =>
      rw [inside, tokens_normalize_layout (h layout List.mem_cons_self)
        (head?_normalize_further rest), List.map_cons]
      have hrest := tokens_normalize_further fun other hother =>
        h other (List.mem_cons_of_mem layout hother)
      rw [hrest]

/-- In front of a parenthesis there is no token unless there is a space. -/
theorem tokens_append_parenthesis {name : Text} (h : ' ' ∉ name) (rest : Text) :
    tokens (name ++ '(' :: rest) = tokens rest := by
  rw [tokens_append_break (by decide) (by decide), tokens_eq_nil_of_not_mem h,
    List.nil_append]

/-! ## What is read off a rendered signature -/

theorem normalize_render {name : Text} (hname : IsPlainName name) (layouts : List Layout) :
    normalize (render name layouts) = name ++ '(' :: normalize (inside layouts) := by
  have hcopied : ∀ c ∈ name, isCopied c = true := by
    intro c hc
    have hreference : c ≠ '&' := by
      rintro rfl
      exact hname.noReference hc
    exact isCopied_of_not_blank hreference (hname.noBlank c hc)
  rw [render, normalize_append_of_isCopied hcopied, normalize_cons_of_isCopied (by decide)]

/-- The parameters found in a rendered signature are those that it was rendered from. -/
theorem parameters_normalize_render {name : Text} (hname : IsPlainName name)
    {layouts : List Layout} (h : ∀ layout ∈ layouts, IsPlain layout.parameter) :
    Extractor.standard.parameters (normalize (render name layouts)) =
      layouts.map Layout.parameter := by
  have hspace : ' ' ∉ name := by
    intro hmem
    have hblank := hname.noBlank ' ' hmem
    exact absurd hblank (by decide)
  rw [Extractor.parameters_standard, normalize_render hname,
    tokens_append_parenthesis hspace, tokens_normalize_inside h]

theorem before_normalize_render {name : Text} (hname : IsPlainName name)
    (layouts : List Layout) :
    Text.before '(' (normalize (render name layouts)) = name := by
  have hall : ∀ c ∈ name, decide (c ≠ '(') = true := by
    intro c hc
    rw [decide_eq_true_eq]
    rintro rfl
    exact hname.noParenthesis hc
  rw [normalize_render hname, Text.before, List.takeWhile_append_of_pos hall,
    List.takeWhile_cons_of_neg (by decide), List.append_nil]

/-- Extraction with the standard pattern undoes rendering.  The white space between the
parts may be of any kind; a method without parameters has no signature. -/
theorem extract_normalize_render {name : Text} (hname : IsPlainName name)
    {layouts : List Layout} (h : ∀ layout ∈ layouts, IsPlain layout.parameter) :
    Extractor.standard.extract (normalize (render name layouts)) =
      if layouts = [] then none else some ⟨name, layouts.map Layout.parameter⟩ := by
  have hparameters := parameters_normalize_render hname h
  rw [Extractor.extract, hparameters, before_normalize_render hname]
  cases layouts with
  | nil => rfl
  | cons layout rest => rfl

/-- A signature over several lines, with every kind of space in it. -/
theorem extract_normalize_render_copy :
    let layouts : List Layout :=
      [⟨⟨"byte[]".toList, "from".toList⟩, .noBreak, []⟩,
        ⟨⟨"int".toList, "to".toList⟩, .spelled, [.blank '\r' rfl, .blank '\n' rfl, .spelled]⟩,
        ⟨⟨"java.util.Locale...".toList, "größe".toList⟩, .lineEnd, []⟩]
    IsPlainName "copy".toList ∧ (∀ layout ∈ layouts, IsPlain layout.parameter) ∧
      render "copy".toList layouts =
        "copy(byte[]\u00A0from,\r\n&nbsp;int&nbsp;to,java.util.Locale...\r\ngröße)".toList ∧
      Extractor.standard.extract (normalize (render "copy".toList layouts)) =
        some ⟨"copy".toList, [⟨"byte[]".toList, "from".toList⟩,
          ⟨"int".toList, "to".toList⟩, ⟨"java.util.Locale...".toList, "größe".toList⟩]⟩ := by
  intro layouts
  have hname : IsPlainName "copy".toList := by decide +kernel
  have hplain : ∀ layout ∈ layouts, IsPlain layout.parameter := by decide +kernel
  exact ⟨hname, hplain, by decide +kernel, extract_normalize_render hname hplain⟩

end Rendering

end JavadocNames
