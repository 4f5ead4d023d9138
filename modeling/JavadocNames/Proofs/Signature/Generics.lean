import Mathlib.Data.List.Infix
import JavadocNames.Proofs.Signature.Rendering
import JavadocNames.Proofs.Signature.Scan

/-!
# Types with arguments

A type in angle brackets does not match the standard pattern, so its parameter gives no
token of its own.  But the pattern knows nothing of brackets.  Inside them a bound such as
`? extends T` looks like a type and a name, and so does what follows them when they are
followed by more of the type, as in `List<T>[] rows`.  The tokens of a signature are those of
its parameters, each taken by itself; the parameters without arguments are all that is found
exactly when no other one looks like this.
-/

namespace JavadocNames

/-- A parameter as a row shows it. -/
def Parameter.text (p : Parameter) : Text :=
  p.typeName ++ ' ' :: p.name

/-- A signature as a row shows it. -/
def Signature.text (signature : Signature) : Text :=
  signature.name ++
    '(' :: (Text.join ", ".toList (signature.parameters.map Parameter.text) ++ [')'])

namespace Generics

open Rendering (IsPlain)

/-- A parameter whose type has arguments in angle brackets.  The brackets are balanced, and
every space or comma of the type stands alone and inside some of them. -/
structure IsGeneric (p : Parameter) : Prop where
  type : ∀ c ∈ p.typeName, Text.isTypeChar c ∨ c ∈ ['<', '>', '?', ',', ' ']
  opens : '<' ∈ p.typeName
  closes : p.typeName.count '>' = p.typeName.count '<'
  nested : ∀ n ≤ p.typeName.length,
    (p.typeName.take n).count '>' ≤ (p.typeName.take n).count '<'
  inside : ∀ n, ∀ h : n < p.typeName.length, p.typeName[n] ∈ [' ', ','] →
    (p.typeName.take n).count '>' < (p.typeName.take n).count '<'
  single : ¬ [' ', ' '] <:+: p.typeName
  name_ne_nil : p.name ≠ []
  name : ∀ c ∈ p.name, Text.isWord c

theorem isGeneric_iff {p : Parameter} :
    IsGeneric p ↔
      p.typeName.all (fun c => Text.isTypeChar c || decide (c ∈ ['<', '>', '?', ',', ' '])) = true ∧
        '<' ∈ p.typeName ∧ p.typeName.count '>' = p.typeName.count '<' ∧
        (∀ n ≤ p.typeName.length,
          (p.typeName.take n).count '>' ≤ (p.typeName.take n).count '<') ∧
        (∀ n, ∀ h : n < p.typeName.length, p.typeName[n] ∈ [' ', ','] →
          (p.typeName.take n).count '>' < (p.typeName.take n).count '<') ∧
        ¬ [' ', ' '] <:+: p.typeName ∧ p.name ≠ [] ∧ p.name.all Text.isWord = true := by
  simp only [List.all_eq_true, Bool.or_eq_true, decide_eq_true_eq]
  constructor
  · intro h
    exact ⟨h.type, h.opens, h.closes, h.nested, h.inside, h.single, h.name_ne_nil, h.name⟩
  · rintro ⟨type, opens, closes, nested, inside, single, nameNe, name⟩
    exact ⟨type, opens, closes, nested, inside, single, nameNe, name⟩

instance (p : Parameter) : Decidable (IsGeneric p) :=
  decidable_of_iff _ isGeneric_iff.symm

/-- The type ends as a plain type could, or has the end of one in it, a space and the start
of a name. -/
def Misleads (p : Parameter) : Prop :=
  (∃ c ∈ p.typeName.getLast?, Text.isTypeChar c) ∨
    ∃ c w, Text.isTypeChar c ∧ Text.isWord w ∧ [c, ' ', w] <:+: p.typeName

theorem IsGeneric.not_isPlain {p : Parameter} (h : IsGeneric p) : ¬ IsPlain p := by
  intro hplain
  have hopen := hplain.isTypeChar '<' h.opens
  exact absurd hopen (by decide)

/-! ## Where a text has tokens -/

theorem tokens_eq_nil_iff {text : Text} :
    tokens text = [] ↔ ∀ n, token? (text.drop n) = none := by
  constructor
  · intro h n
    have hemits : Emits text 0 [] := emits_iff.mpr h.symm
    cases hemits with
    | done hnone => exact token?_drop_eq_none_iff.mpr fun p stop => hnone p n stop (by omega)
  · intro h
    have hemits : Emits text 0 [] :=
      .done fun p start stop _ => token?_drop_eq_none_iff.mp (h start) p stop
    exact (emits_iff.mp hemits).symm

/-- A text has tokens exactly when the end of a type, a space and the start of a name stand
side by side in it. -/
theorem tokens_ne_nil_iff {text : Text} :
    tokens text ≠ [] ↔
      ∃ c w, Text.isTypeChar c ∧ Text.isWord w ∧ [c, ' ', w] <:+: text := by
  rw [ne_eq, tokens_eq_nil_iff, not_forall]
  constructor
  · rintro ⟨n, htoken⟩
    obtain ⟨⟨p, length⟩, htoken⟩ := Option.ne_none_iff_exists'.mp htoken
    obtain ⟨rest, hrest, htype, hname, htypeNil, hnameNil, -⟩ := token?_eq_some htoken
    obtain ⟨after, hsplit⟩ := token?_split htoken
    have htypeName := List.dropLast_concat_getLast htypeNil
    have hc : p.typeName.getLast htypeNil ∈ (text.drop n).takeWhile Text.isTypeChar := by
      rw [← htype]
      exact List.getLast_mem htypeNil
    obtain ⟨w, more, hparameter⟩ := List.exists_cons_of_ne_nil hnameNil
    have hw : w ∈ rest.takeWhile Text.isWord := by
      rw [← hname, hparameter]
      exact List.mem_cons_self
    refine ⟨p.typeName.getLast htypeNil, w, List.mem_takeWhile_imp hc,
      List.mem_takeWhile_imp hw, text.take n ++ p.typeName.dropLast, more ++ after, ?_⟩
    have htext := List.take_append_drop n text
    rw [hsplit, ← htypeName, hparameter] at htext
    simpa using htext
  · rintro ⟨c, w, hc, hw, front, back, rfl⟩
    refine ⟨front.length, ?_⟩
    have hsplit : (front ++ [c, ' ', w] ++ back).drop front.length =
        [c] ++ ' ' :: ((w :: back.takeWhile Text.isWord) ++ back.dropWhile Text.isWord) := by
      simp
    have hnames : ∀ d ∈ w :: back.takeWhile Text.isWord, Text.isWord d = true := by
      intro d hd
      rcases List.mem_cons.mp hd with rfl | hd
      · exact hw
      · exact List.mem_takeWhile_imp hd
    have hafter : ∀ d ∈ (back.dropWhile Text.isWord).head?, Text.isWord d = false := by
      intro d hd
      have hstop := List.head?_dropWhile_not Text.isWord back
      rw [Option.mem_def.mp hd] at hstop
      exact hstop
    rw [hsplit, token?_append (by simp) (by simpa using hc) (by simp) hnames hafter]
    simp

/-- Side by side across a space, or all in what precedes it. -/
theorem infix_append_space_iff {c w : Char} (hc : c ≠ ' ') (hw : w ≠ ' ') {type name : Text}
    (hname : ' ' ∉ name) :
    [c, ' ', w] <:+: type ++ ' ' :: name ↔
      [c, ' ', w] <:+: type ∨ (type.getLast? = some c ∧ name.head? = some w) := by
  induction type with
  | nil =>
      have hinside : ¬ [c, ' ', w] <:+: name := fun h => hname (h.subset (by simp))
      simp [List.infix_cons_iff, List.cons_prefix_cons, hc, hinside]
  | cons d type ih =>
      rw [List.cons_append, List.infix_cons_iff, ih, List.infix_cons_iff, List.cons_prefix_cons,
        List.cons_prefix_cons]
      cases type with
      | nil =>
          -- The front of a single character is that character, the space and the name.
          cases name with
          | nil => simp
          | cons e rest => simpa using and_congr eq_comm eq_comm
      | cons e more =>
          -- A front that reaches beyond the type would have to start a name with the space.
          cases more <;> simp [List.cons_prefix_cons, hw, or_assoc]

/-- The tokens of a parameter with arguments are those that its type misleads to. -/
theorem tokens_text_ne_nil_iff {p : Parameter} (hne : p.name ≠ [])
    (hname : ∀ c ∈ p.name, Text.isWord c) : tokens p.text ≠ [] ↔ Misleads p := by
  have hspace : ' ' ∉ p.name := fun hmem => absurd (hname ' ' hmem) (by decide)
  rw [tokens_ne_nil_iff]
  constructor
  · rintro ⟨c, w, hc, hw, hinfix⟩
    have hcSpace : c ≠ ' ' := by
      rintro rfl
      exact absurd hc (by decide)
    have hwSpace : w ≠ ' ' := by
      rintro rfl
      exact absurd hw (by decide)
    rcases (infix_append_space_iff hcSpace hwSpace hspace).mp hinfix with hinside | ⟨hlast, -⟩
    · exact Or.inr ⟨c, w, hc, hw, hinside⟩
    · exact Or.inl ⟨c, hlast, hc⟩
  · rintro (⟨c, hlast, hc⟩ | ⟨c, w, hc, hw, hinside⟩)
    · obtain ⟨w, more, hmore⟩ := List.exists_cons_of_ne_nil hne
      obtain ⟨front, hfront⟩ := List.getLast?_eq_some_iff.mp hlast
      refine ⟨c, w, hc, hname w (by simp [hmore]), front, more, ?_⟩
      simp [Parameter.text, hfront, hmore]
    · exact ⟨c, w, hc, hw, hinside.trans (List.prefix_append _ _).isInfix⟩

/-! ## Tokens of a signature -/

theorem tokens_text_of_isPlain {p : Parameter} (h : IsPlain p) : tokens p.text = [p] := by
  have hafter : ∀ c ∈ ([] : Text).head?, Text.isWord c = false := by simp
  have htoken := token?_append h.type_ne_nil h.isTypeChar h.name_ne_nil h.name hafter
  rw [List.append_nil] at htoken
  have hlength : p.text.length = p.typeName.length + 1 + p.name.length := by
    simp [Parameter.text]
    omega
  rw [tokens_of_some (show token? p.text = _ from htoken), ← hlength, List.drop_length]
  rfl

/-- The comma between two parameters keeps their tokens apart. -/
theorem tokens_join (ps : List Parameter) :
    tokens (Text.join ", ".toList (ps.map Parameter.text) ++ [')']) =
      ps.flatMap fun p => tokens p.text := by
  have hspace : Text.isTypeChar ' ' = false := by decide
  have hend : ∀ text, tokens (text ++ [')']) = tokens text := by
    intro text
    rw [tokens_append_break (by decide) (by decide)]
    exact List.append_nil _
  rw [hend]
  induction ps with
  | nil => rfl
  | cons p rest ih =>
      cases rest with
      | nil => simp [Text.join]
      | cons q rest =>
          have hjoin : Text.join ", ".toList ((p :: q :: rest).map Parameter.text) =
              p.text ++ ',' :: ' ' :: Text.join ", ".toList ((q :: rest).map Parameter.text) := by
            simp [Text.join, List.intercalate]
          rw [hjoin, tokens_append_break (by decide) (by decide),
            tokens_cons_of_not_typeChar hspace, ih]
          rfl

theorem tokens_text {signature : Signature} (hname : ∀ c ∈ signature.name, Text.isWord c) :
    tokens signature.text = signature.parameters.flatMap fun p => tokens p.text := by
  have hspace : ' ' ∉ signature.name := fun hmem => absurd (hname ' ' hmem) (by decide)
  rw [Signature.text, Rendering.tokens_append_parenthesis hspace, tokens_join]

theorem before_text {signature : Signature} (hname : ∀ c ∈ signature.name, Text.isWord c) :
    Text.before '(' signature.text = signature.name := by
  have hall : ∀ c ∈ signature.name, decide (c ≠ '(') = true := by
    intro c hc
    rw [decide_eq_true_eq]
    rintro rfl
    exact absurd (hname '(' hc) (by decide)
  rw [Signature.text, Text.before, List.takeWhile_append_of_pos hall,
    List.takeWhile_cons_of_neg (by decide), List.append_nil]

/-! ## Plain parameters among others -/

section

variable {found : Parameter → List Parameter} {ps : List Parameter}

theorem length_filter_le (hfound : ∀ p ∈ ps, IsPlain p → found p = [p]) :
    (ps.filter fun p => IsPlain p).length ≤ (ps.flatMap found).length := by
  induction ps with
  | nil => simp
  | cons p rest ih =>
      have hrest := ih fun q hq => hfound q (List.mem_cons_of_mem p hq)
      by_cases hp : IsPlain p
      · simp only [List.flatMap_cons, hfound p List.mem_cons_self hp, List.filter_cons, hp]
        simpa using hrest
      · rw [List.flatMap_cons, List.filter_cons_of_neg (by simpa), List.length_append]
        omega

/-- When each plain parameter is found once, they are all that is found exactly when nothing
is found for the others. -/
theorem flatMap_eq_filter_iff (hfound : ∀ p ∈ ps, IsPlain p → found p = [p]) :
    ps.flatMap found = ps.filter (fun p => IsPlain p) ↔
      ∀ p ∈ ps, ¬ IsPlain p → found p = [] := by
  induction ps with
  | nil => simp
  | cons p rest ih =>
      have hrest : ∀ q ∈ rest, IsPlain q → found q = [q] :=
        fun q hq => hfound q (List.mem_cons_of_mem p hq)
      by_cases hp : IsPlain p
      · rw [List.flatMap_cons, hfound p List.mem_cons_self hp, List.filter_cons_of_pos (by simpa),
          List.singleton_append, List.cons_inj_right, ih hrest]
        simp [hp]
      · rw [List.flatMap_cons, List.filter_cons_of_neg (by simpa)]
        constructor
        · intro h
          -- What is found for the others leaves no room for more.
          have hlength := congrArg List.length h
          have hle := length_filter_le hrest
          rw [List.length_append] at hlength
          have hnone : found p = [] := List.length_eq_zero_iff.mp (by omega)
          rw [hnone, List.nil_append, ih hrest] at h
          simpa [hnone] using h
        · intro h
          have hnone := h p List.mem_cons_self hp
          rw [hnone, List.nil_append, ih hrest]
          exact fun q hq => h q (List.mem_cons_of_mem p hq)

end

/-! ## What is read off a signature with arguments in its types -/

/-- For each plain parameter of a signature it is found, and for each other one what its own
text misleads to.  The plain parameters are all that is read off, and nothing is read off
when there is none, exactly when no type with arguments misleads. -/
theorem extract_text_plain_iff {signature : Signature}
    (hname : ∀ c ∈ signature.name, Text.isWord c)
    (hps : ∀ p ∈ signature.parameters, IsPlain p ∨ IsGeneric p) :
    let plain := signature.parameters.filter fun p => IsPlain p
    Extractor.standard.parameters signature.text =
        (signature.parameters.flatMap fun p => if IsPlain p then [p] else tokens p.text) ∧
      (Extractor.standard.extract signature.text =
          (if plain = [] then none else some ⟨signature.name, plain⟩) ↔
        ∀ p ∈ signature.parameters, IsGeneric p → ¬ Misleads p) := by
  intro plain
  have hparameters : Extractor.standard.parameters signature.text =
      signature.parameters.flatMap fun p => tokens p.text := by
    rw [Extractor.parameters_standard, tokens_text hname]
  have hextract : Extractor.standard.extract signature.text =
      (if plain = [] then none else some ⟨signature.name, plain⟩) ↔
        (signature.parameters.flatMap fun p => tokens p.text) = plain := by
    rw [Extractor.extract, hparameters, before_text hname]
    cases (signature.parameters.flatMap fun p => tokens p.text) with
    | nil => by_cases hplain : plain = [] <;> simp [hplain]
    | cons p rest =>
        by_cases hplain : plain = []
        · simp [hplain]
        · simp [hplain]
  constructor
  · rw [hparameters]
    refine List.flatMap_congr fun p _ => ?_
    by_cases hp : IsPlain p
    · rw [if_pos hp, tokens_text_of_isPlain hp]
    · rw [if_neg hp]
  · rw [hextract, flatMap_eq_filter_iff fun p _ hp => tokens_text_of_isPlain hp]
    refine forall₂_congr fun p hp => ?_
    have hcases := hps p hp
    constructor
    · intro h hgeneric
      rw [← tokens_text_ne_nil_iff hgeneric.name_ne_nil hgeneric.name, ne_eq, not_not]
      exact h hgeneric.not_isPlain
    · intro h hnot
      have hgeneric := hcases.resolve_left hnot
      have hquiet := h hgeneric
      rwa [← tokens_text_ne_nil_iff hgeneric.name_ne_nil hgeneric.name, ne_eq, not_not] at hquiet

/-- A type with nested arguments between plain parameters does not mislead. -/
theorem extract_text_plain_iff_put :
    let map : Parameter := ⟨"java.util.Map<K, java.util.List<V>>".toList, "map".toList⟩
    let count : Parameter := ⟨"int".toList, "count".toList⟩
    let rest : Parameter := ⟨"Object[]".toList, "rest".toList⟩
    let signature : Signature := ⟨"put".toList, [count, map, rest]⟩
    signature.text =
        "put(int count, java.util.Map<K, java.util.List<V>> map, Object[] rest)".toList ∧
      (∀ c ∈ signature.name, Text.isWord c) ∧
      (∀ p ∈ signature.parameters, IsPlain p ∨ IsGeneric p) ∧ IsGeneric map ∧
      Extractor.standard.extract signature.text = some ⟨"put".toList, [count, rest]⟩ := by
  intro map count rest signature
  have hname : ∀ c ∈ signature.name, Text.isWord c = true := List.all_eq_true.mp (by decide)
  have hgeneric : IsGeneric map := by decide +kernel
  have hcount : IsPlain count := by decide
  have hrest : IsPlain rest := by decide
  have hps : ∀ p ∈ signature.parameters, IsPlain p ∨ IsGeneric p := by
    simp [signature, hgeneric, hcount, hrest]
  have hquiet : ¬ Misleads map := by
    rw [← tokens_text_ne_nil_iff hgeneric.name_ne_nil hgeneric.name, ne_eq, not_not]
    decide +kernel
  have hnone : ∀ p ∈ signature.parameters, IsGeneric p → ¬ Misleads p := by
    intro p hp hp'
    simp only [signature, List.mem_cons, List.not_mem_nil, or_false] at hp
    rcases hp with rfl | rfl | rfl
    · exact absurd hcount hp'.not_isPlain
    · exact hquiet
    · exact absurd hrest hp'.not_isPlain
  have hextract := (extract_text_plain_iff hname hps).2.mpr hnone
  have hplain : signature.parameters.filter (fun p => IsPlain p) = [count, rest] := by
    simp [signature, hcount, hrest, hgeneric.not_isPlain]
  rw [hplain] at hextract
  exact ⟨by decide +kernel, hname, hps, hgeneric, hextract⟩

/-- A bound in a type with arguments is found as a parameter, which is not left out. -/
theorem extract_bounded_wildcard :
    let p : Parameter := ⟨"java.util.Collection<? extends E>".toList, "c".toList⟩
    let signature : Signature := ⟨"addAll".toList, [p]⟩
    signature.text = "addAll(java.util.Collection<? extends E> c)".toList ∧
      (∀ c ∈ signature.name, Text.isWord c) ∧ IsGeneric p ∧
      (signature.parameters.filter fun p => IsPlain p) = [] ∧
      Extractor.standard.extract signature.text =
        some ⟨"addAll".toList, [⟨"extends".toList, "E".toList⟩]⟩ := by
  intro p signature
  have hname : ∀ c ∈ signature.name, Text.isWord c = true := List.all_eq_true.mp (by decide)
  have hgeneric : IsGeneric p := by decide +kernel
  have hplain : (signature.parameters.filter fun p => IsPlain p) = [] := by
    simp [signature, hgeneric.not_isPlain]
  have hparameters : Extractor.standard.parameters signature.text =
      [⟨"extends".toList, "E".toList⟩] := by
    rw [Extractor.parameters_standard]
    decide +kernel
  refine ⟨by decide +kernel, hname, hgeneric, hplain, ?_⟩
  rw [Extractor.extract, hparameters]
  decide +kernel

end Generics

end JavadocNames
