import JavadocNames.Proofs.Pattern.Steps
import JavadocNames.Proofs.Text.Classes
import JavadocNames.Signature.Extraction

/-!
# Tokens

The standard pattern is no more than a linear scan.  A token is a run of type
characters, one space and a run of word characters; the scan goes from place to place,
takes every token that it meets and goes on behind it.
-/

namespace JavadocNames

/-- A character of a type: a word character, a dot or a bracket. -/
def Text.isTypeChar (c : Char) : Bool :=
  Text.isWord c || c = '.' || c = '[' || c = ']'

/-- The parameter at the front of a text, and the number of characters that it takes. -/
def token? (text : Text) : Option (Parameter × Nat) :=
  let type := text.takeWhile Text.isTypeChar
  match text.dropWhile Text.isTypeChar with
  | ' ' :: rest =>
      let name := rest.takeWhile Text.isWord
      if type = [] || name = [] then none
      else some (⟨type, name⟩, type.length + 1 + name.length)
  | _ => none

/-- The parameters of the tokens of a text from its `skip`-th character on. -/
def tokensFrom : Nat → Text → List Parameter
  | _, [] => []
  | skip + 1, _ :: rest => tokensFrom skip rest
  | 0, c :: rest =>
      match token? (c :: rest) with
      | some (p, length) => p :: tokensFrom (length - 1) rest
      | none => tokensFrom 0 rest

/-- The parameters of the tokens of a text, in order. -/
def tokens (text : Text) : List Parameter :=
  tokensFrom 0 text

theorem tokensFrom_eq (skip : Nat) (text : Text) :
    tokensFrom skip text = tokens (text.drop skip) := by
  induction skip generalizing text with
  | zero => rfl
  | succ skip ih =>
      cases text with
      | nil => rfl
      | cons c rest => exact ih rest

theorem tokens_cons_of_none {c : Char} {rest : Text} (h : token? (c :: rest) = none) :
    tokens (c :: rest) = tokens rest := by
  rw [tokens, tokensFrom, h]
  rfl

/-- Where no type starts, no token starts. -/
theorem token?_cons_of_not_typeChar {c : Char} (h : Text.isTypeChar c = false)
    (rest : Text) : token? (c :: rest) = none := by
  unfold token?
  split
  · simp [h]
  · rfl

theorem tokens_cons_of_not_typeChar {c : Char} (h : Text.isTypeChar c = false)
    (rest : Text) : tokens (c :: rest) = tokens rest :=
  tokens_cons_of_none (token?_cons_of_not_typeChar h rest)

/-- Characters of which no type starts are passed over. -/
theorem tokens_append_of_not_typeChar {skipped : Text}
    (h : ∀ c ∈ skipped, Text.isTypeChar c = false) (rest : Text) :
    tokens (skipped ++ rest) = tokens rest := by
  induction skipped with
  | nil => rfl
  | cons c skipped ih =>
      rw [List.cons_append, tokens_cons_of_not_typeChar (h c List.mem_cons_self)]
      exact ih fun other hother => h other (List.mem_cons_of_mem c hother)

/-- A token is a type, a space and a name, with no word character behind it. -/
theorem token?_eq_some {text : Text} {p : Parameter} {n : Nat}
    (h : token? text = some (p, n)) :
    ∃ rest, text.dropWhile Text.isTypeChar = ' ' :: rest ∧
      p.typeName = text.takeWhile Text.isTypeChar ∧ p.name = rest.takeWhile Text.isWord ∧
      p.typeName ≠ [] ∧ p.name ≠ [] ∧ n = p.typeName.length + 1 + p.name.length := by
  unfold token? at h
  dsimp only at h
  split at h
  · rename_i rest hrest
    split at h
    · contradiction
    · rename_i hparts
      simp only [Bool.or_eq_true, decide_eq_true_eq, not_or] at hparts
      obtain ⟨rfl, rfl⟩ := Prod.mk.inj (Option.some.inj h)
      exact ⟨rest, hrest, rfl, rfl, hparts.1, hparts.2, rfl⟩
  · contradiction

theorem token?_eq_none {text : Text} (h : token? text = none) {rest : Text}
    (hrest : text.dropWhile Text.isTypeChar = ' ' :: rest) :
    text.takeWhile Text.isTypeChar = [] ∨ rest.takeWhile Text.isWord = [] := by
  rw [token?, hrest] at h
  simpa [Classical.or_iff_not_imp_left] using h

theorem token?_eq_none_of_dropWhile {text : Text}
    (h : (text.dropWhile Text.isTypeChar).head? ≠ some ' ') : token? text = none := by
  unfold token?
  dsimp only
  split
  · rename_i rest hrest
    rw [hrest] at h
    exact absurd rfl h
  · rfl

/-- The front of a text that is a token. -/
theorem token?_append {type name after : Text} (htype : type ≠ [])
    (htypes : ∀ c ∈ type, Text.isTypeChar c = true) (hname : name ≠ [])
    (hnames : ∀ c ∈ name, Text.isWord c = true)
    (hafter : ∀ c ∈ after.head?, Text.isWord c = false) :
    token? (type ++ ' ' :: (name ++ after)) =
      some (⟨type, name⟩, type.length + 1 + name.length) := by
  have hspace : Text.isTypeChar ' ' = false := by decide
  have htake : (type ++ ' ' :: (name ++ after)).takeWhile Text.isTypeChar = type := by
    rw [List.takeWhile_append_of_pos htypes, List.takeWhile_cons_of_neg (by simp [hspace]),
      List.append_nil]
  have hdrop : (type ++ ' ' :: (name ++ after)).dropWhile Text.isTypeChar =
      ' ' :: (name ++ after) := by
    rw [List.dropWhile_append_of_pos htypes, List.dropWhile_cons_of_neg (by simp [hspace])]
  have hword : (name ++ after).takeWhile Text.isWord = name := by
    rw [List.takeWhile_append_of_pos hnames]
    cases after with
    | nil => simp
    | cons c rest => simp [hafter c rfl]
  rw [token?, hdrop, htake]
  simp [hword, htype, hname]

/-- A token has its characters in the text. -/
theorem token?_split {text : Text} {p : Parameter} {n : Nat}
    (h : token? text = some (p, n)) :
    ∃ after, text = p.typeName ++ ' ' :: (p.name ++ after) := by
  obtain ⟨rest, hrest, htype, hname, -, -, -⟩ := token?_eq_some h
  refine ⟨rest.dropWhile Text.isWord, ?_⟩
  rw [hname, List.takeWhile_append_dropWhile, htype, ← hrest,
    List.takeWhile_append_dropWhile]

/-- A token takes no more characters than there are. -/
theorem token?_length_le {text : Text} {p : Parameter} {n : Nat}
    (h : token? text = some (p, n)) : n ≤ text.length := by
  obtain ⟨after, hsplit⟩ := token?_split h
  obtain ⟨-, -, -, -, -, -, rfl⟩ := token?_eq_some h
  simp only [hsplit, List.length_append, List.length_cons]
  omega

/-- A token is taken, and the scan goes on behind it. -/
theorem tokens_of_some {text : Text} {p : Parameter} {n : Nat}
    (h : token? text = some (p, n)) : tokens text = p :: tokens (text.drop n) := by
  obtain ⟨-, -, -, -, -, -, hn⟩ := token?_eq_some h
  cases text with
  | nil => contradiction
  | cons c rest =>
      obtain ⟨m, rfl⟩ : ∃ m, n = m + 1 := ⟨n - 1, by omega⟩
      rw [tokens, tokensFrom, h]
      exact congrArg (p :: ·) (tokensFrom_eq m rest)

/-! ## Tokens on both sides of a break -/

theorem takeWhile_append_break {kept : Char → Bool} {c : Char} (hc : kept c = false)
    (front rest : Text) :
    (front ++ c :: rest).takeWhile kept = front.takeWhile kept := by
  induction front with
  | nil => simp [hc]
  | cons d front ih => by_cases hd : kept d = true <;> simp [hd, ih]

theorem dropWhile_append_break {kept : Char → Bool} {c : Char} (hc : kept c = false)
    (front rest : Text) :
    (front ++ c :: rest).dropWhile kept = front.dropWhile kept ++ c :: rest := by
  induction front with
  | nil => simp [hc]
  | cons d front ih => by_cases hd : kept d = true <;> simp [hd, ih]

/-- A character that is neither part of a type nor a space cuts tokens off. -/
theorem token?_append_break {c : Char} (hc : Text.isTypeChar c = false) (hspace : c ≠ ' ')
    (front rest : Text) : token? (front ++ c :: rest) = token? front := by
  have hdrop := dropWhile_append_break hc front rest
  have hword : Text.isWord c = false := by
    simp only [Text.isTypeChar, Bool.or_eq_false_iff] at hc
    exact hc.1.1.1
  cases hfront : front.dropWhile Text.isTypeChar with
  | nil =>
      rw [token?_eq_none_of_dropWhile (by simp [hdrop, hfront, hspace]),
        token?_eq_none_of_dropWhile (by simp [hfront])]
  | cons d more =>
      by_cases hd : d = ' '
      · subst hd
        unfold token?
        rw [takeWhile_append_break hc, hdrop, hfront]
        simp [takeWhile_append_break hword]
      · rw [token?_eq_none_of_dropWhile (by simp [hdrop, hfront, hd]),
          token?_eq_none_of_dropWhile (by simp [hfront, hd])]

/-- The tokens on both sides of a character that is neither part of a type nor a space. -/
theorem tokens_append_break {c : Char} (hc : Text.isTypeChar c = false) (hspace : c ≠ ' ')
    (front rest : Text) : tokens (front ++ c :: rest) = tokens front ++ tokens rest := by
  cases front with
  | nil => exact tokens_cons_of_not_typeChar hc rest
  | cons d front =>
      have hsame := token?_append_break hc hspace (d :: front) rest
      cases htoken : token? (d :: front) with
      | none =>
          rw [htoken, List.cons_append] at hsame
          rw [tokens_cons_of_none htoken, List.cons_append, tokens_cons_of_none hsame]
          exact tokens_append_break hc hspace front rest
      | some token =>
          obtain ⟨p, n⟩ := token
          rw [htoken] at hsame
          have hlength := token?_length_le htoken
          obtain ⟨-, -, -, -, -, -, hn⟩ := token?_eq_some htoken
          rw [tokens_of_some htoken, tokens_of_some hsame, List.drop_append_of_le_length hlength,
            List.cons_append]
          exact congrArg (p :: ·) (tokens_append_break hc hspace _ rest)
termination_by front.length
decreasing_by
  · simp
  · simp only [List.length_drop, List.length_cons]
    omega

/-- Where there is no space there is no token. -/
theorem tokens_eq_nil_of_not_mem {text : Text} (h : ' ' ∉ text) : tokens text = [] := by
  induction text with
  | nil => rfl
  | cons c rest ih =>
      have hnone : token? (c :: rest) = none := by
        apply token?_eq_none_of_dropWhile
        intro hhead
        exact h ((List.dropWhile_sublist _).mem (List.mem_of_mem_head? hhead))
      rw [tokens_cons_of_none hnone]
      exact ih fun hmem => h (List.mem_cons_of_mem c hmem)

/-! ## The parts of the standard pattern -/

namespace Extractor

open Scanner

theorem contains_typeSet : typeSet.contains = Text.isTypeChar := by
  ext c
  simp [typeSet, CharSet.contains, CharSet.contains_single, Text.isTypeChar]

theorem run_typeSet (text : Text) :
    typeSet.run text = (text.takeWhile Text.isTypeChar).length := by
  rw [CharSet.run, contains_typeSet]

/-- The scanner of a comma and the white space after it. -/
def leadScanner : Scanner :=
  group 1 (sequence (one (.single ',') none)
    (choice (loop true (one .blank none)) empty))

/-- The scanner of a token. -/
def tokenScanner : Scanner :=
  group 2 (sequence
    (sequence (group 3 (loop true (one typeSet none))) (one (.single ' ') none))
    (group 4 (loop true (one .word none))))

theorem ofPattern_standardPattern :
    ofPattern standardPattern =
      sequence (choice (sequence leadScanner empty) empty) tokenScanner := rfl

/-- The way past a token whose type has `type` characters and whose name has `name`. -/
def tokenWay (place : Cursor) (type name : Nat) : Way :=
  ⟨[.opened 2 place, .opened 3 place, .closed 3 (place.advance type),
      .opened 4 (place.advance (type + 1)), .closed 4 (place.advance (type + 1 + name)),
      .closed 2 (place.advance (type + 1 + name))],
    place.advance (type + 1 + name)⟩

/-- The way past a name, towards the end of a token. -/
theorem wayFrom_name (place : Cursor) :
    (group 4 (loop true (one .word none))).wayFrom
        (closing (fun stop => some (Way.here stop)) 2) place =
      if CharSet.word.run place.rest = 0 then none
      else some ⟨[.opened 4 place, .closed 4 (place.advance (CharSet.word.run place.rest)),
        .closed 2 (place.advance (CharSet.word.run place.rest))],
        place.advance (CharSet.word.run place.rest)⟩ := by
  rw [wayFrom_group, wayFrom_loop_run .word (fun _ _ => Or.inr rfl)]
  by_cases hname : CharSet.word.run place.rest = 0
  · rw [if_pos hname, if_pos hname]
    rfl
  · rw [if_neg hname, if_neg hname]
    rfl

/-- Where a type could go on there is no space. -/
theorem wayFrom_space_of_run {after : Cursor → Option Way} {place : Cursor}
    (h : typeSet.run place.rest ≠ 0) :
    (one (.single ' ') none).wayFrom after place = none := by
  obtain ⟨c, rest, hrest, hc⟩ := CharSet.exists_cons_of_run_ne_zero h
  refine wayFrom_one_of_not_mem after hrest ?_
  rw [CharSet.contains_single, decide_eq_false_iff_not]
  rintro rfl
  exact absurd hc (by decide)

/-- The way past a type, towards its name. -/
theorem wayFrom_type (after : Cursor → Option Way) (place : Cursor) :
    (sequence (group 3 (loop true (one typeSet none))) (one (.single ' ') none)).wayFrom
        after place =
      if typeSet.run place.rest = 0 then none
      else ((one (.single ' ') none).wayFrom after
        (place.advance (typeSet.run place.rest))).map
          (Way.after [.opened 3 place, .closed 3 (place.advance (typeSet.run place.rest))]) := by
  rw [wayFrom_sequence, wayFrom_group, wayFrom_loop_run typeSet]
  case hstop =>
    -- Where a type goes on there is no space, so the loop does not stop there.
    intro stop hrun
    left
    rw [closing, wayFrom_space_of_run hrun, Option.map_none]
  by_cases htype : typeSet.run place.rest = 0
  · rw [if_pos htype, if_pos htype, Option.map_none]
  · rw [if_neg htype, if_neg htype, closing, Option.map_map]
    rfl

/-- What stands behind a type. -/
theorem rest_advance_run (place : Cursor) :
    (place.advance (typeSet.run place.rest)).rest =
      place.rest.dropWhile Text.isTypeChar := by
  rw [Cursor.rest_advance, run_typeSet]
  have hsplit := List.takeWhile_append_dropWhile (p := Text.isTypeChar) (l := place.rest)
  exact (congrArg (List.drop _) hsplit).symm.trans List.drop_left

/-- A token is matched where it stands, and to its end. -/
theorem wayFrom_tokenScanner_of_some {place : Cursor} {p : Parameter} {n : Nat}
    (h : token? place.rest = some (p, n)) :
    tokenScanner.wayFrom (fun stop => some (Way.here stop)) place =
      some (tokenWay place p.typeName.length p.name.length) := by
  obtain ⟨rest, hrest, htype, hname, htypeNil, hnameNil, -⟩ := token?_eq_some h
  have hrun : typeSet.run place.rest = p.typeName.length := by rw [run_typeSet, htype]
  have hspace : (place.advance p.typeName.length).rest = ' ' :: rest := by
    rw [← hrun, rest_advance_run, hrest]
  have hafter : (place.advance (p.typeName.length + 1)).rest = rest := by
    rw [← Cursor.advance_advance, Cursor.rest_advance, hspace]
    rfl
  have hword : CharSet.word.run rest = p.name.length := by
    rw [hname]
    rfl
  have htypeLength : p.typeName.length ≠ 0 := by simpa using htypeNil
  have hnameLength : p.name.length ≠ 0 := by simpa using hnameNil
  rw [tokenScanner, wayFrom_group, wayFrom_sequence, wayFrom_type, hrun,
    if_neg htypeLength, wayFrom_one_of_mem _ hspace (by decide), wayFrom_name,
    Cursor.advance_advance, hafter, hword, if_neg hnameLength, Cursor.advance_advance]
  rfl

theorem wayFrom_tokenScanner_of_none {place : Cursor} (h : token? place.rest = none) :
    tokenScanner.wayFrom (fun stop => some (Way.here stop)) place = none := by
  rw [tokenScanner, wayFrom_group, wayFrom_sequence, wayFrom_type]
  by_cases hrun : typeSet.run place.rest = 0
  · rw [if_pos hrun, Option.map_none]
  · rw [if_neg hrun]
    have hstop := rest_advance_run place
    -- Behind the type there is the end, a space without a name, or another character.
    cases hrest : place.rest.dropWhile Text.isTypeChar with
    | nil => rw [wayFrom_one_end _ (hstop.trans hrest)]; rfl
    | cons c rest =>
        by_cases hc : c = ' '
        · subst hc
          have hname : CharSet.word.run rest = 0 := by
            rcases token?_eq_none h hrest with htype | hname
            · exact absurd (by rw [run_typeSet, htype]; rfl) hrun
            · exact congrArg List.length hname
          rw [wayFrom_one_of_mem _ (hstop.trans hrest) (by decide), wayFrom_name,
            Cursor.rest_advance, hstop, hrest]
          rw [List.drop_one, List.tail_cons, if_pos hname]
          rfl
        · rw [wayFrom_one_of_not_mem _ (hstop.trans hrest)
            (by rw [CharSet.contains_single, decide_eq_false_iff_not]; exact hc)]
          rfl

/-- The text between two places. -/
theorem take_advance {place : Cursor} {m n : Nat} (h : m + n ≤ place.rest.length) :
    (place.advance m).rest.take ((place.advance (m + n)).position - (place.advance m).position) =
      (place.rest.drop m).take n := by
  rw [Cursor.rest_advance, Cursor.position_advance h,
    Cursor.position_advance (Nat.le_trans (Nat.le_add_right m n) h),
    Nat.add_sub_add_left, Nat.add_sub_cancel_left]

theorem groupText?_three (place : Cursor) (type name : Nat) (marks : List Mark) :
    ((tokenWay place type name).after marks).groupText? 3 =
      some (place.rest.take ((place.advance type).position - place.position)) := by
  simp [Way.groupText?, Way.after, tokenWay, Mark.openedAt?, Mark.closedAt?]

theorem groupText?_four (place : Cursor) (type name : Nat) (marks : List Mark) :
    ((tokenWay place type name).after marks).groupText? 4 =
      some ((place.advance (type + 1)).rest.take
        ((place.advance (type + 1 + name)).position -
          (place.advance (type + 1)).position)) := by
  simp [Way.groupText?, Way.after, tokenWay, Mark.openedAt?, Mark.closedAt?]

/-- The parameter of a token is read off its marks, whatever marks come before. -/
theorem parameterOf?_tokenWay {place : Cursor} {p : Parameter} {n : Nat}
    (h : token? place.rest = some (p, n)) (start : Cursor) (marks : List Mark) :
    parameterOf? ⟨start, (tokenWay place p.typeName.length p.name.length).after marks⟩ =
      some p := by
  obtain ⟨after, hsplit⟩ := token?_split h
  have hlength : p.typeName.length + 1 + p.name.length ≤ place.rest.length := by
    simp only [hsplit, List.length_append, List.length_cons]
    omega
  have htype : place.rest.take ((place.advance p.typeName.length).position -
      place.position) = p.typeName := by
    rw [Cursor.position_advance (by omega), Nat.add_sub_cancel_left, hsplit]
    exact List.take_left
  have hname : (place.rest.drop (p.typeName.length + 1)).take p.name.length = p.name := by
    rw [hsplit, ← List.drop_drop, List.drop_left, List.drop_one, List.tail_cons]
    exact List.take_left
  simp only [parameterOf?, capturesIn, groupText?_three, groupText?_four, htype,
    take_advance hlength, hname]
  rfl

/-! ## The matches of the standard pattern -/

theorem isTypeChar_of_isBlank {c : Char} (h : Text.isBlank c = true) :
    Text.isTypeChar c = false := by
  have hdot : c ≠ '.' := by
    rintro rfl
    exact absurd h (by decide)
  have hopen : c ≠ '[' := by
    rintro rfl
    exact absurd h (by decide)
  have hclose : c ≠ ']' := by
    rintro rfl
    exact absurd h (by decide)
  simp [Text.isTypeChar, Text.isWord_of_isBlank h, hdot, hopen, hclose]

/-- The preferred way of a token from a place. -/
def tokenFrom (place : Cursor) : Option Way :=
  tokenScanner.wayFrom (fun stop => some (Way.here stop)) place

/-- White space does not start a token. -/
theorem tokenFrom_of_blank {place : Cursor} (h : CharSet.blank.run place.rest ≠ 0) :
    tokenFrom place = none := by
  obtain ⟨c, rest, hrest, hc⟩ := CharSet.exists_cons_of_run_ne_zero h
  apply wayFrom_tokenScanner_of_none
  rw [hrest]
  exact token?_cons_of_not_typeChar (isTypeChar_of_isBlank hc) rest

/-- A comma leads over all white space behind it. -/
theorem wayFrom_leadScanner {place : Cursor} {rest : Text} (hrest : place.rest = ',' :: rest) :
    leadScanner.wayFrom tokenFrom place =
      (tokenFrom (place.advance (1 + CharSet.blank.run rest))).map
        (Way.after [.opened 1 place,
          .closed 1 (place.advance (1 + CharSet.blank.run rest))]) := by
  have hnext : (place.advance 1).rest = rest := by rw [Cursor.rest_advance, hrest]; rfl
  rw [leadScanner, wayFrom_group, wayFrom_sequence, wayFrom_one_of_mem _ hrest (by decide),
    wayFrom_choice, wayFrom_empty, wayFrom_loop_run .blank, hnext, ← Cursor.advance_advance]
  case hstop =>
    -- No token starts with white space.
    intro stop hrun
    left
    rw [closing, tokenFrom_of_blank hrun, Option.map_none]
  by_cases hblank : CharSet.blank.run rest = 0
  · rw [if_pos hblank, hblank, Cursor.advance_zero, closing]
    cases tokenFrom (place.advance 1) <;> rfl
  · -- The branch without white space leads nowhere, since some is there.
    have hstay : tokenFrom (place.advance 1) = none := by
      apply tokenFrom_of_blank
      rwa [hnext]
    rw [if_neg hblank, closing, closing, hstay]
    cases tokenFrom ((place.advance 1).advance (CharSet.blank.run rest)) <;> rfl

theorem wayFrom_leadScanner_of_ne {place : Cursor} {c : Char} {rest : Text}
    (hrest : place.rest = c :: rest) (hc : c ≠ ',') :
    leadScanner.wayFrom tokenFrom place = none := by
  rw [leadScanner, wayFrom_group, wayFrom_sequence, wayFrom_one_of_not_mem _ hrest]
  · rfl
  · rw [CharSet.contains_single, decide_eq_false_iff_not]
    exact hc

theorem wayAt_standardPattern (place : Cursor) :
    standardPattern.wayAt place =
      firstOf (leadScanner.wayFrom tokenFrom place) (tokenFrom place) := by
  have hempty : empty.wayFrom tokenFrom = tokenFrom := by
    funext stop
    exact wayFrom_empty tokenFrom stop
  have htoken : tokenScanner.wayFrom (fun stop => some (Way.here stop)) = tokenFrom := rfl
  rw [Pattern.wayAt, ofPattern_standardPattern, wayFrom_sequence, wayFrom_choice,
    wayFrom_sequence, htoken, hempty]

theorem tokens_drop_run_blank (text : Text) :
    tokens (text.drop (CharSet.blank.run text)) = tokens text := by
  have hsplit := List.takeWhile_append_dropWhile (p := CharSet.blank.contains) (l := text)
  have hdrop : text.drop (CharSet.blank.run text) = text.dropWhile CharSet.blank.contains :=
    (congrArg (List.drop _) hsplit).symm.trans List.drop_left
  have hblank : ∀ c ∈ text.takeWhile CharSet.blank.contains, Text.isTypeChar c = false :=
    fun c hc => isTypeChar_of_isBlank (List.all_eq_true.mp List.all_takeWhile c hc)
  rw [hdrop, ← tokens_append_of_not_typeChar hblank, hsplit]

/-- A match of the standard pattern at a place: the parameter of the next token, after
which the scan goes on. -/
def IsNextToken (place : Cursor) (found : Match) (p : Parameter) (n : Nat) : Prop :=
  standardPattern.matchAt? place = some found ∧ parameterOf? found = some p ∧
    found.start = place ∧ found.way.stop = place.advance (n + 1) ∧
    n + 1 ≤ place.rest.length ∧
    tokens place.rest = p :: tokens (place.rest.drop (n + 1))

theorem tokenFrom_of_comma {place : Cursor} {rest : Text} (hrest : place.rest = ',' :: rest) :
    tokenFrom place = none := by
  apply wayFrom_tokenScanner_of_none
  rw [hrest]
  exact token?_cons_of_not_typeChar (by decide) rest

theorem rest_advance_comma {place : Cursor} {rest : Text} (hrest : place.rest = ',' :: rest) :
    (place.advance (1 + CharSet.blank.run rest)).rest = rest.drop (CharSet.blank.run rest) := by
  rw [Cursor.rest_advance, hrest, Nat.add_comm]
  rfl

/-- A comma goes with the token behind it and its white space. -/
theorem isNextToken_of_comma {place : Cursor} {rest : Text} {p : Parameter} {n : Nat}
    (hrest : place.rest = ',' :: rest)
    (htoken : token? (rest.drop (CharSet.blank.run rest)) = some (p, n)) :
    ∃ found, IsNextToken place found p (CharSet.blank.run rest + n) := by
  let start := place.advance (1 + CharSet.blank.run rest)
  let marks : List Mark := [.opened 1 place, .closed 1 start]
  have hstart : token? start.rest = some (p, n) := (rest_advance_comma hrest) ▸ htoken
  have hway : standardPattern.wayAt place =
      some ((tokenWay start p.typeName.length p.name.length).after marks) := by
    rw [wayAt_standardPattern, wayFrom_leadScanner hrest, tokenFrom_of_comma hrest, tokenFrom,
      wayFrom_tokenScanner_of_some hstart]
    rfl
  have hlength := token?_length_le htoken
  rw [List.length_drop] at hlength
  have hrun : CharSet.blank.run rest ≤ rest.length := (List.takeWhile_sublist _).length_le
  obtain ⟨-, -, -, -, -, -, hn⟩ := token?_eq_some htoken
  refine ⟨⟨place, (tokenWay start p.typeName.length p.name.length).after marks⟩, ?_,
    parameterOf?_tokenWay hstart _ _, rfl, ?_, ?_, ?_⟩
  · rw [Pattern.matchAt?, hway]
    rfl
  · change start.advance _ = _
    rw [Cursor.advance_advance, hn]
    congr 1
    omega
  · rw [hrest, List.length_cons]
    omega
  · rw [hrest, tokens_cons_of_not_typeChar (by decide), ← tokens_drop_run_blank rest,
      tokens_of_some htoken, List.drop_drop]
    rfl

/-- At a comma the next token may stand behind white space. -/
theorem match_or_skip_comma {place : Cursor} {rest : Text} (hrest : place.rest = ',' :: rest) :
    (standardPattern.matchAt? place = none ∧ tokens place.rest = tokens rest) ∨
      ∃ found p n, IsNextToken place found p n := by
  cases htoken : token? (rest.drop (CharSet.blank.run rest)) with
  | none =>
      left
      constructor
      · rw [Pattern.matchAt?, wayAt_standardPattern, wayFrom_leadScanner hrest,
          tokenFrom_of_comma hrest, tokenFrom,
          wayFrom_tokenScanner_of_none ((rest_advance_comma hrest) ▸ htoken)]
        rfl
      · rw [hrest]
        exact tokens_cons_of_not_typeChar (by decide) rest
  | some token =>
      right
      obtain ⟨found, hfound⟩ := isNextToken_of_comma hrest htoken
      exact ⟨found, token.1, _, hfound⟩

/-- Elsewhere the next token can only stand at the place. -/
theorem match_or_skip_other {place : Cursor} {c : Char} {rest : Text}
    (hrest : place.rest = c :: rest) (hc : c ≠ ',') :
    (standardPattern.matchAt? place = none ∧ tokens place.rest = tokens rest) ∨
      ∃ found p n, IsNextToken place found p n := by
  cases htoken : token? place.rest with
  | none =>
      left
      constructor
      · rw [Pattern.matchAt?, wayAt_standardPattern, wayFrom_leadScanner_of_ne hrest hc,
          tokenFrom, wayFrom_tokenScanner_of_none htoken]
        rfl
      · rw [hrest] at htoken ⊢
        exact tokens_cons_of_none htoken
  | some token =>
      obtain ⟨p, n⟩ := token
      right
      obtain ⟨-, -, -, -, -, -, hn⟩ := token?_eq_some htoken
      obtain ⟨m, rfl⟩ : ∃ m, n = m + 1 := ⟨n - 1, by omega⟩
      have hway : tokenFrom place =
          some (tokenWay place p.typeName.length p.name.length) :=
        wayFrom_tokenScanner_of_some htoken
      refine ⟨⟨place, tokenWay place p.typeName.length p.name.length⟩, p, m, ?_,
        parameterOf?_tokenWay htoken place [], rfl, ?_, token?_length_le htoken,
        tokens_of_some htoken⟩
      · rw [Pattern.matchAt?, wayAt_standardPattern, wayFrom_leadScanner_of_ne hrest hc, hway]
        rfl
      · rw [hn]
        rfl

theorem match_or_skip {place : Cursor} {c : Char} {rest : Text}
    (hrest : place.rest = c :: rest) :
    (standardPattern.matchAt? place = none ∧ tokens place.rest = tokens rest) ∨
      ∃ found p n, IsNextToken place found p n := by
  by_cases hc : c = ','
  · subst hc
    exact match_or_skip_comma hrest
  · exact match_or_skip_other hrest hc

/-- At the end of a text there is no match. -/
theorem matchAt?_end {place : Cursor} (hrest : place.rest = []) :
    standardPattern.matchAt? place = none := by
  have htoken : tokenFrom place = none := by
    apply wayFrom_tokenScanner_of_none
    rw [hrest]
    rfl
  rw [Pattern.matchAt?, wayAt_standardPattern, htoken, leadScanner, wayFrom_group,
    wayFrom_sequence, wayFrom_one_end _ hrest]
  rfl

/-- Where every match gives a parameter, these are the parameters found. -/
theorem parameters_eq_of_map_matchesOf {pattern : Pattern} {text : Text}
    {ps : List Parameter} (h : (pattern.matchesOf text).map parameterOf? = ps.map some) :
    (matching pattern).parameters text = ps := by
  have hread := congrArg (List.filterMap id) h
  rw [List.filterMap_map, List.filterMap_map] at hread
  rw [parameters, matching, List.filterMap_map]
  have hread' : (pattern.matchesOf text).filterMap parameterOf? = ps := by simpa using hread
  exact hread'

/-- The standard pattern goes from token to token. -/
theorem goesByStep_standard : standardPattern.GoesByStep parameterOf? tokens where
  told_nil := rfl
  atEnd place hrest := matchAt?_end hrest
  step place c rest hrest := by
    rcases match_or_skip hrest with hskip | ⟨found, p, n, hmatch, hread, -, hstop, hn, htokens⟩
    · exact Or.inl hskip
    · exact Or.inr ⟨found, p, n, hmatch, hread, hstop, hn, htokens⟩

/-- Each match of the standard pattern gives a parameter, that of a token. -/
theorem map_matchesOf_standard (text : Text) :
    (standardPattern.matchesOf text).map parameterOf? = (tokens text).map some :=
  goesByStep_standard.map_matchesOf text

/-- The standard pattern finds the parameters of the tokens. -/
theorem parameters_standard (text : Text) : standard.parameters text = tokens text :=
  parameters_eq_of_map_matchesOf (map_matchesOf_standard text)

end Extractor

end JavadocNames
