import JavadocNames.Proofs.Signature.Excerpts
import JavadocNames.Proofs.Signature.Tokens

/-!
# The scan for parameters

The reading of a signature with the standard pattern, told by positions.  A parameter
stands where all type characters from a position on are followed by one space and a word
character.  The scan looks for the first such position, takes the parameter and goes on at
its end, wherever that lies.  What it emits are the parameters of the signature; no match
is lost, and the comma that may lead a match makes no difference.
-/

namespace JavadocNames

/-- A parameter stands in a text from one position up to another.  Its type is the whole run
of type characters there, and behind one space its name is a whole run of word characters. -/
structure Parameter.StandsAt (p : Parameter) (text : Text) (start stop : Nat) : Prop where
  type : p.typeName = (text.drop start).takeWhile Text.isTypeChar
  type_ne_nil : p.typeName ≠ []
  space : text[start + p.typeName.length]? = some ' '
  name : p.name = (text.drop (start + p.typeName.length + 1)).takeWhile Text.isWord
  name_ne_nil : p.name ≠ []
  stop : stop = start + p.typeName.length + 1 + p.name.length

/-- What the scan emits from a position on. -/
inductive Emits (text : Text) : Nat → List Parameter → Prop
  /-- No parameter stands there or further on. -/
  | done {i : Nat} (hnone : ∀ p start stop, i ≤ start → ¬ Parameter.StandsAt p text start stop) :
      Emits text i []
  /-- The first parameter is emitted, and the scan goes on at its end. -/
  | next {i start stop : Nat} {p : Parameter} {ps : List Parameter} (hle : i ≤ start)
      (hfirst : ∀ q other after, i ≤ other → other < start →
        ¬ Parameter.StandsAt q text other after)
      (hstands : p.StandsAt text start stop) (hrest : Emits text stop ps) :
      Emits text i (p :: ps)

/-! ## Tokens by position -/

/-- A token at the front of what is left of a text stands at that position. -/
theorem token?_drop_eq_some_iff {text : Text} {p : Parameter} {start n : Nat} :
    token? (text.drop start) = some (p, n) ↔ p.StandsAt text start (start + n) := by
  have hsplit := List.takeWhile_append_dropWhile (p := Text.isTypeChar) (l := text.drop start)
  -- What stands behind the type, in the text and in what is left of it.
  have hbehind : ∀ type, type = (text.drop start).takeWhile Text.isTypeChar →
      (text.drop start).dropWhile Text.isTypeChar = text.drop (start + type.length) := by
    rintro type rfl
    have hdrop := congrArg (List.drop ((text.drop start).takeWhile Text.isTypeChar).length) hsplit
    rw [← List.drop_drop, ← hdrop, List.drop_left]
  constructor
  · intro h
    obtain ⟨rest, hrest, htype, hname, htypeNil, hnameNil, hn⟩ := token?_eq_some h
    rw [hbehind p.typeName htype] at hrest
    have hnext : text.drop (start + p.typeName.length + 1) = rest := by
      rw [← List.drop_drop, hrest]
      rfl
    refine ⟨htype, htypeNil, ?_, ?_, hnameNil, by omega⟩
    · rw [← List.head?_drop, hrest]
      rfl
    · rw [hnext, hname]
  · intro h
    have hrest : (text.drop start).dropWhile Text.isTypeChar =
        ' ' :: text.drop (start + p.typeName.length + 1) := by
      have hspace := h.space
      rw [← List.head?_drop] at hspace
      obtain ⟨rest, hrest⟩ := List.head?_eq_some_iff.mp hspace
      rw [hbehind p.typeName h.type, hrest, ← List.drop_drop, hrest]
      rfl
    have hn : n = p.typeName.length + 1 + p.name.length := by
      have hstop := h.stop
      omega
    unfold token?
    rw [hrest, ← h.type]
    simp [← h.name, h.type_ne_nil, h.name_ne_nil, hn]

theorem token?_drop_eq_none_iff {text : Text} {start : Nat} :
    token? (text.drop start) = none ↔ ∀ p stop, ¬ Parameter.StandsAt p text start stop := by
  constructor
  · intro h p stop hstands
    obtain ⟨n, rfl⟩ : ∃ n, stop = start + n :=
      ⟨p.typeName.length + 1 + p.name.length, by rw [hstands.stop]; omega⟩
    rw [token?_drop_eq_some_iff.mpr hstands] at h
    contradiction
  · intro h
    rw [Option.eq_none_iff_forall_not_mem]
    rintro ⟨p, n⟩ hsome
    exact h p _ (token?_drop_eq_some_iff.mp hsome)

/-- Positions at which no token starts are passed over. -/
theorem tokens_drop_of_none {text : Text} {i start : Nat} (hle : i ≤ start)
    (h : ∀ k, i ≤ k → k < start → token? (text.drop k) = none) :
    tokens (text.drop i) = tokens (text.drop start) := by
  induction start, hle using Nat.le_induction with
  | base => rfl
  | succ start hle ih =>
      rw [ih fun k hi hk => h k hi (by omega)]
      have hhere := h start hle (by omega)
      cases hdrop : text.drop start with
      | nil => rw [← List.drop_drop, hdrop, List.drop_nil]
      | cons c rest =>
          rw [hdrop] at hhere
          rw [tokens_cons_of_none hhere, ← List.drop_drop, hdrop]
          rfl

/-- What the scan emits are the tokens of what is left. -/
theorem Emits.eq_tokens {text : Text} {i : Nat} {ps : List Parameter} (h : Emits text i ps) :
    ps = tokens (text.drop i) := by
  induction h with
  | @done i hnone =>
      have hend : text.drop (i + text.length) = [] := List.drop_of_length_le (by omega)
      have hall : ∀ k, i ≤ k → k < i + text.length → token? (text.drop k) = none := by
        intro k hi _
        exact token?_drop_eq_none_iff.mpr fun p stop => hnone p k stop hi
      rw [tokens_drop_of_none (by omega) hall, hend]
      rfl
  | @next i start stop p ps hle hfirst hstands _ ih =>
      obtain ⟨n, rfl⟩ : ∃ n, stop = start + n :=
        ⟨p.typeName.length + 1 + p.name.length, by rw [hstands.stop]; omega⟩
      have htoken := token?_drop_eq_some_iff.mpr hstands
      rw [tokens_drop_of_none hle, tokens_of_some htoken, List.drop_drop, ← ih]
      intro k hi hk
      exact token?_drop_eq_none_iff.mpr fun q after => hfirst q k after hi hk

/-- A position where no parameter stands makes no difference to the scan. -/
theorem Emits.of_succ {text : Text} {i : Nat} {ps : List Parameter}
    (hnone : ∀ p stop, ¬ Parameter.StandsAt p text i stop) (h : Emits text (i + 1) ps) :
    Emits text i ps := by
  cases h with
  | done hlater =>
      apply Emits.done
      intro p start stop hle
      by_cases hi : start = i
      · exact hi ▸ hnone p stop
      · exact hlater p start stop (by omega)
  | next hle hfirst hstands hrest =>
      refine Emits.next (by omega) ?_ hstands hrest
      intro q other after hi hother
      by_cases hhere : other = i
      · exact hhere ▸ hnone q after
      · exact hfirst q other after (by omega) hother

/-- The scan comes to an end, whatever the text. -/
theorem emits_tokens (text : Text) (i : Nat) : Emits text i (tokens (text.drop i)) := by
  cases hdrop : text.drop i with
  | nil =>
      apply Emits.done
      intro p start stop hle hstands
      have hlength : text.length ≤ i := List.drop_eq_nil_iff.mp hdrop
      have hspace := hstands.space
      rw [List.getElem?_eq_none (by omega)] at hspace
      contradiction
  | cons c rest =>
      have hlength : i < text.length := by
        by_contra hge
        rw [List.drop_of_length_le (by omega)] at hdrop
        contradiction
      cases htoken : token? (text.drop i) with
      | none =>
          have hnext := emits_tokens text (i + 1)
          have hhere : ∀ k, i ≤ k → k < i + 1 → token? (text.drop k) = none := by
            intro k hi hk
            obtain rfl : k = i := by omega
            exact htoken
          rw [← hdrop, tokens_drop_of_none (by omega) hhere]
          exact hnext.of_succ (token?_drop_eq_none_iff.mp htoken)
      | some token =>
          obtain ⟨p, n⟩ := token
          obtain ⟨-, -, -, -, -, -, hn⟩ := token?_eq_some htoken
          have hstands := token?_drop_eq_some_iff.mp htoken
          have hnext := emits_tokens text (i + n)
          rw [← hdrop, tokens_of_some htoken, List.drop_drop]
          exact Emits.next (Nat.le_refl i) (by omega) hstands hnext
termination_by text.length - i

/-- The scan emits one list only, the tokens of what is left. -/
theorem emits_iff {text : Text} {i : Nat} {ps : List Parameter} :
    Emits text i ps ↔ ps = tokens (text.drop i) :=
  ⟨Emits.eq_tokens, fun h => h ▸ emits_tokens text i⟩

/-- The fronts of what precedes a character are the fronts without that character. -/
theorem Text.prefix_before_iff {stop : Char} {front text : Text} :
    front <+: before stop text ↔ front <+: text ∧ stop ∉ front := by
  constructor
  · intro h
    exact ⟨h.trans (List.takeWhile_prefix _), fun hmem => not_mem_before stop text (h.subset hmem)⟩
  · rintro ⟨⟨rest, rfl⟩, hstop⟩
    have hfront : ∀ c ∈ front, decide (c ≠ stop) = true := by
      intro c hc
      rw [decide_eq_true_eq]
      rintro rfl
      exact hstop hc
    rw [before, List.takeWhile_append_of_pos hfront]
    exact List.prefix_append front _

/-! ## The pattern without a leading comma -/

namespace Extractor

open Scanner

/-- The standard pattern with an empty group in place of the leading comma. -/
def leadlessText : Text :=
  "()(([\\w\\.\\[\\]]+) (\\w+))".toList

/-- The pattern that `leadlessText` spells. -/
def leadlessPattern : Pattern :=
  .sequence (.group 1 .empty)
    (.group 2
      (.sequence
        (.sequence (.group 3 (.repeated true 1 none (.one typeSet))) (.one (.single ' ')))
        (.group 4 (.repeated true 1 none (.one .word)))))

theorem read_leadlessText : Pattern.read? leadlessText = some leadlessPattern := by
  rfl

/-- Without a leading comma a match is a token where it stands. -/
theorem wayAt_leadlessPattern (place : Cursor) :
    leadlessPattern.wayAt place =
      (tokenFrom place).map (Way.after [.opened 1 place, .closed 1 place]) := by
  have hpattern : ofPattern leadlessPattern = sequence (group 1 empty) tokenScanner := rfl
  rw [Pattern.wayAt, hpattern, wayFrom_sequence, wayFrom_group, wayFrom_empty, closing,
    Option.map_map]
  rfl

theorem matchAt?_leadlessPattern_of_none {place : Cursor} (h : token? place.rest = none) :
    leadlessPattern.matchAt? place = none := by
  rw [Pattern.matchAt?, wayAt_leadlessPattern, tokenFrom, wayFrom_tokenScanner_of_none h]
  rfl

/-- The pattern without a leading comma goes from token to token as well. -/
theorem goesByStep_leadless : leadlessPattern.GoesByStep parameterOf? tokens where
  told_nil := rfl
  atEnd place hrest := matchAt?_leadlessPattern_of_none (by rw [hrest]; rfl)
  step place c rest hrest := by
    cases htoken : token? place.rest with
    | none =>
        left
        refine ⟨matchAt?_leadlessPattern_of_none htoken, ?_⟩
        rw [hrest] at htoken ⊢
        exact tokens_cons_of_none htoken
    | some token =>
        right
        obtain ⟨p, n⟩ := token
        obtain ⟨-, -, -, -, -, -, hn⟩ := token?_eq_some htoken
        let marks : List Mark := [.opened 1 place, .closed 1 place]
        let way := (tokenWay place p.typeName.length p.name.length).after marks
        have hway : leadlessPattern.wayAt place = some way := by
          rw [wayAt_leadlessPattern, tokenFrom, wayFrom_tokenScanner_of_some htoken]
          rfl
        have hlast : n = p.typeName.length + p.name.length + 1 := by omega
        refine ⟨⟨place, way⟩, p, p.typeName.length + p.name.length, ?_,
          parameterOf?_tokenWay htoken place marks, ?_, hlast ▸ token?_length_le htoken,
          hlast ▸ tokens_of_some htoken⟩
        · rw [Pattern.matchAt?, hway]
          rfl
        · show place.advance (p.typeName.length + 1 + p.name.length) = _
          congr 1
          omega

theorem parameters_leadless (text : Text) :
    (matching leadlessPattern).parameters text = tokens text :=
  parameters_eq_of_map_matchesOf (goesByStep_leadless.map_matchesOf text)

/-! ## What is read off a text -/

/-- The standard pattern reads off a text what the scan emits, together with the longest
front without a parenthesis; a text from which nothing is emitted has no signature.  Each
match counts for one parameter, and without the comma that may lead it the pattern reads
the same. -/
theorem extract_standard_scan (text : Text) :
    ∃ ps name, (∀ qs, Emits text 0 qs ↔ qs = ps) ∧
      (∀ front, front <+: name ↔ front <+: text ∧ '(' ∉ front) ∧
      standard.extract text = (if ps = [] then none else some ⟨name, ps⟩) ∧
      (standardPattern.matchesOf text).map parameterOf? = ps.map some ∧
      ∃ leadless, Pattern.read? leadlessText = some leadless ∧
        (matching leadless).extract text = standard.extract text := by
  refine ⟨tokens text, Text.before '(' text, fun qs => emits_iff,
    fun front => Text.prefix_before_iff, ?_, map_matchesOf_standard text,
    leadlessPattern, read_leadlessText, ?_⟩
  · rw [extract, parameters_standard]
    cases tokens text with
    | nil => rfl
    | cons p rest => rfl
  · rw [extract, extract, parameters_standard, parameters_leadless]

/-- What is left of a run of type characters behind a name may be the next type. -/
example : tokens "int a.b c d".toList =
    [⟨"int".toList, "a".toList⟩, ⟨".b".toList, "c".toList⟩] := by decide

end Extractor

end JavadocNames
