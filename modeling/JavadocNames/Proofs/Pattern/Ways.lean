import JavadocNames.Pattern.Matching

/-!
# Preferred ways

A scanner comes from the end of a text and knows at each place the preferred way to
the end of a match.  Here that way is described from the front: through a sequence it
is the way of the first part towards the second, through a group it is the way of the
body between two marks, and through a loop over a set it is the way that goes on first
and stops only when going on does not lead to a match.
-/

namespace JavadocNames

namespace Cursor

/-- The place some characters further on, or the end of the text. -/
def advance : Nat → Cursor → Cursor
  | n + 1, ⟨position, _, c :: rest⟩ => advance n ⟨position + 1, some c, rest⟩
  | _, place => place

@[simp] theorem advance_zero (place : Cursor) : place.advance 0 = place := by
  rw [advance]
  intros
  contradiction

@[simp] theorem advance_succ (n position : Nat) (previous : Option Char) (c : Char)
    (rest : Text) :
    advance (n + 1) ⟨position, previous, c :: rest⟩ =
      advance n ⟨position + 1, some c, rest⟩ := rfl

theorem rest_advance (n : Nat) (place : Cursor) :
    (place.advance n).rest = place.rest.drop n := by
  induction n generalizing place with
  | zero => simp
  | succ n ih =>
      obtain ⟨position, previous, rest⟩ := place
      cases rest with
      | nil => rfl
      | cons c rest => exact ih ⟨position + 1, some c, rest⟩

theorem position_advance {n : Nat} {place : Cursor} (h : n ≤ place.rest.length) :
    (place.advance n).position = place.position + n := by
  induction n generalizing place with
  | zero => simp
  | succ n ih =>
      obtain ⟨position, previous, rest⟩ := place
      cases rest with
      | nil => simp at h
      | cons c rest =>
          rw [advance_succ, ih (by simpa using h)]
          exact Nat.add_right_comm position 1 n

theorem advance_advance (m n : Nat) (place : Cursor) :
    (place.advance m).advance n = place.advance (m + n) := by
  induction m generalizing place with
  | zero => simp
  | succ m ih =>
      obtain ⟨position, previous, rest⟩ := place
      cases rest with
      | nil =>
          cases n with
          | zero => rfl
          | succ n => rw [Nat.add_right_comm]; rfl
      | cons c rest => rw [advance_succ, ih, Nat.add_right_comm, advance_succ]

/-- The places behind a place, in order. -/
def later (place : Cursor) : List Cursor :=
  match place.rest with
  | [] => []
  | c :: rest => places (place.position + 1) (some c) rest

theorem places_eq (position : Nat) (previous : Option Char) (text : Text) :
    places position previous text =
      ⟨position, previous, text⟩ :: later ⟨position, previous, text⟩ := by
  cases text <;> rfl

theorem later_cons (position : Nat) (previous : Option Char) (c : Char) (rest : Text) :
    later ⟨position, previous, c :: rest⟩ =
      ⟨position + 1, some c, rest⟩ :: later ⟨position + 1, some c, rest⟩ :=
  places_eq (position + 1) (some c) rest

theorem later_eq_advance {place : Cursor} {c : Char} {rest : Text}
    (hrest : place.rest = c :: rest) :
    place.later = place.advance 1 :: (place.advance 1).later := by
  obtain ⟨position, previous, _⟩ := place
  obtain rfl := hrest
  rw [later_cons, advance_succ, advance_zero]

end Cursor

namespace Scanner

/-- A scanner that has come through some places, from the last to the first, where
`after` is the preferred way of what follows the pattern. -/
def arrive (s : Scanner) (after : Cursor → Option Way) : List Cursor → Scanner
  | [] => s
  | place :: places => (arrive s after places).retreat place (after place)

/-- The preferred way through a pattern and what follows it. -/
def wayFrom (s : Scanner) (after : Cursor → Option Way) (place : Cursor) : Option Way :=
  ((s.arrive after place.later).crossing place).answer (after place)

variable (after : Cursor → Option Way) (place : Cursor)

theorem arrive_empty : empty.arrive after place.later = empty := by
  obtain ⟨position, previous, rest⟩ := place
  induction rest generalizing position previous with
  | nil => rfl
  | cons c rest ih => rw [Cursor.later_cons, arrive, ih, retreat]

theorem wayFrom_empty : empty.wayFrom after place = after place := by
  rw [wayFrom, arrive_empty, crossing, Crossing.answer]
  cases after place <;> rfl

theorem arrive_sequence (first second : Scanner) :
    (sequence first second).arrive after place.later =
      sequence (first.arrive (second.wayFrom after) place.later)
        (second.arrive after place.later) := by
  obtain ⟨position, previous, rest⟩ := place
  induction rest generalizing position previous with
  | nil => rfl
  | cons c rest ih =>
      rw [Cursor.later_cons, arrive, ih, retreat]
      rfl

/-- A sequence is its first part towards its second. -/
theorem wayFrom_sequence (first second : Scanner) :
    (sequence first second).wayFrom after place =
      first.wayFrom (second.wayFrom after) place := by
  rw [wayFrom, arrive_sequence, answer_sequence]
  rfl

theorem arrive_choice (first second : Scanner) :
    (choice first second).arrive after place.later =
      choice (first.arrive after place.later) (second.arrive after place.later) := by
  obtain ⟨position, previous, rest⟩ := place
  induction rest generalizing position previous with
  | nil => rfl
  | cons c rest ih =>
      rw [Cursor.later_cons, arrive, ih, retreat]
      rfl

/-- A choice is its first branch if that leads to a match. -/
theorem wayFrom_choice (first second : Scanner) :
    (choice first second).wayFrom after place =
      firstOf (first.wayFrom after place) (second.wayFrom after place) := by
  rw [wayFrom, arrive_choice, answer_choice]
  rfl

/-- What follows the body of a group: the mark of its end, and what follows the
group. -/
def closing (index : Nat) (place : Cursor) : Option Way :=
  (after place).map (Way.after [.closed index place])

theorem arrive_group (index : Nat) (body : Scanner) :
    (group index body).arrive after place.later =
      group index (body.arrive (closing after index) place.later) := by
  obtain ⟨position, previous, rest⟩ := place
  induction rest generalizing position previous with
  | nil => rfl
  | cons c rest ih =>
      rw [Cursor.later_cons, arrive, ih, retreat]
      rfl

/-- A group is its body between two marks. -/
theorem wayFrom_group (index : Nat) (body : Scanner) :
    (group index body).wayFrom after place =
      (body.wayFrom (closing after index) place).map (Way.after [.opened index place]) := by
  rw [wayFrom, arrive_group, wayFrom, crossing]
  -- A body that stays on the spot is followed by the end of the group at once.
  cases (body.arrive (closing after index) place.later).crossing place with
  | decided way => rfl
  | onTheSpot marks otherwise =>
      cases hnext : after place <;> cases otherwise <;>
        simp [Crossing.answer, closing, hnext, firstOf, Way.after]

/-- The preferred way of what follows at the next place, if there is one. -/
def ahead (place : Cursor) : Option Way :=
  match place.rest with
  | [] => none
  | c :: rest => after ⟨place.position + 1, some c, rest⟩

theorem arrive_one (set : CharSet) :
    (one set none).arrive after place.later = one set (ahead after place) := by
  obtain ⟨position, previous, rest⟩ := place
  induction rest generalizing position previous with
  | nil => rfl
  | cons c rest ih =>
      rw [Cursor.later_cons, arrive, ih, retreat]
      rfl

/-- A set is a single character and what follows it. -/
theorem wayFrom_one_of_mem {set : CharSet} {place : Cursor} {c : Char} {rest : Text}
    (hrest : place.rest = c :: rest) (hc : set.contains c = true) :
    (one set none).wayFrom after place = after (place.advance 1) := by
  obtain ⟨position, previous, _⟩ := place
  obtain rfl := hrest
  rw [wayFrom, arrive_one, crossing]
  simp [Crossing.answer, hc, ahead]

theorem wayFrom_one_of_not_mem {set : CharSet} {place : Cursor} {c : Char} {rest : Text}
    (hrest : place.rest = c :: rest) (hc : set.contains c = false) :
    (one set none).wayFrom after place = none := by
  rw [wayFrom, arrive_one, crossing, hrest]
  simp [Crossing.answer, hc]

theorem wayFrom_one_end {set : CharSet} {place : Cursor} (hrest : place.rest = []) :
    (one set none).wayFrom after place = none := by
  rw [wayFrom, arrive_one, crossing, hrest]
  rfl

/-! ## Loops over a set -/

/-- What follows a round of a greedy loop: another round, or what follows the loop. -/
def again (set : CharSet) (place : Cursor) : Option Way :=
  firstOf ((loop true (one set none)).wayFrom after place) (after place)

/-- The crossing of a set never stays on the spot. -/
theorem elsewhere_crossing_one (set : CharSet) (next otherwise : Option Way) :
    ((one set next).crossing place).elsewhere =
      ((one set next).crossing place).answer otherwise := by
  rw [crossing]
  cases place.rest <;> rfl

theorem arrive_loop (set : CharSet) :
    (loop true (one set none)).arrive after place.later =
      loop true (one set (ahead (again after set) place)) := by
  obtain ⟨position, previous, rest⟩ := place
  induction rest generalizing position previous with
  | nil => rfl
  | cons c rest ih =>
      -- A retreat keeps of a round only what leaves the place, and a round over a set
      -- always leaves it.
      have hnext : (loop true (one set none)).wayFrom after ⟨position + 1, some c, rest⟩ =
          ((one set (ahead (again after set) ⟨position + 1, some c, rest⟩)).crossing
            ⟨position + 1, some c, rest⟩).elsewhere := by
        rw [wayFrom, ih, elsewhere_crossing_one]
        rfl
      rw [Cursor.later_cons, arrive, ih, retreat, ← hnext]
      rfl

/-- A greedy loop over a set is one character and then the choice to go on. -/
theorem wayFrom_loop (set : CharSet) (position : Nat) (previous : Option Char) (c : Char)
    (rest : Text) :
    (loop true (one set none)).wayFrom after ⟨position, previous, c :: rest⟩ =
      if set.contains c then again after set ⟨position + 1, some c, rest⟩ else none := by
  rw [wayFrom, arrive_loop]
  rfl

theorem wayFrom_loop_end (set : CharSet) (position : Nat) (previous : Option Char) :
    (loop true (one set none)).wayFrom after ⟨position, previous, []⟩ = none := by
  rw [wayFrom, arrive_loop]
  rfl

end Scanner

/-- The number of characters of a set before the first other one. -/
def CharSet.run (set : CharSet) (text : Text) : Nat :=
  (text.takeWhile set.contains).length

namespace CharSet

theorem contains_single (c d : Char) : (single c).contains d = decide (d = c) := by
  simp only [single, contains, Bool.and_eq_decide, decide_eq_true_eq, decide_eq_decide]
  exact ⟨fun h => Char.le_antisymm h.2 h.1, fun h => h ▸ ⟨Char.le_refl _, Char.le_refl _⟩⟩

/-- A run that is not empty starts with a character of the set. -/
theorem exists_cons_of_run_ne_zero {set : CharSet} {text : Text} (h : set.run text ≠ 0) :
    ∃ c rest, text = c :: rest ∧ set.contains c = true := by
  cases text with
  | nil => exact absurd rfl h
  | cons c rest =>
      cases hc : set.contains c with
      | true => exact ⟨c, rest, rfl, hc⟩
      | false => exact absurd (by simp [run, hc]) h

theorem run_cons_of_mem {set : CharSet} {c : Char} (h : set.contains c = true)
    (rest : Text) : set.run (c :: rest) = set.run rest + 1 := by
  simp [run, h]

theorem run_cons_of_not_mem {set : CharSet} {c : Char} (h : set.contains c = false)
    (rest : Text) : set.run (c :: rest) = 0 := by
  simp [run, h]

end CharSet

namespace Scanner

/-- A greedy loop takes a whole run, provided that wherever the run could go on, to
stop does not help unless the end of the run is as good. -/
theorem wayFrom_loop_run (set : CharSet) {after : Cursor → Option Way}
    (hstop : ∀ place : Cursor, set.run place.rest ≠ 0 →
      after place = none ∨ (after (place.advance (set.run place.rest))).isSome)
    (place : Cursor) :
    (loop true (one set none)).wayFrom after place =
      if set.run place.rest = 0 then none
      else after (place.advance (set.run place.rest)) := by
  obtain ⟨position, previous, rest⟩ := place
  induction rest generalizing position previous with
  | nil => rw [wayFrom_loop_end]; rfl
  | cons c rest ih =>
      rw [wayFrom_loop]
      cases hc : set.contains c with
      | false => rw [CharSet.run_cons_of_not_mem hc]; rfl
      | true =>
          rw [CharSet.run_cons_of_mem hc, Cursor.advance_succ, again, ih]
          by_cases hrun : set.run rest = 0
          · simp [hrun, firstOf]
          · -- The run goes on, so the loop prefers its end to a stop here.
            have hnext := hstop ⟨position + 1, some c, rest⟩ hrun
            rcases hnext with hnone | hsome
            · simp [hrun, hnone, firstOf]
            · obtain ⟨way, hway⟩ := Option.isSome_iff_exists.mp hsome
              simp [hrun, hway, firstOf]

end Scanner

/-! ## Matches -/

namespace Pattern

/-- The preferred way of a pattern from a place to the end of a match. -/
def wayAt (pattern : Pattern) (place : Cursor) : Option Way :=
  (Scanner.ofPattern pattern).wayFrom (fun stop => some (Way.here stop)) place

/-- The match of a pattern at a place, if there is one. -/
def matchAt? (pattern : Pattern) (place : Cursor) : Option Match :=
  (pattern.wayAt place).map fun way => ⟨place, way⟩

/-- A scanner that has come through some places, and the matches there. -/
def scanOf (pattern : Pattern) (places : List Cursor) : Scan :=
  ⟨(Scanner.ofPattern pattern).arrive (fun stop => some (Way.here stop)) places,
    places.filterMap pattern.matchAt?⟩

theorem step_scanOf (pattern : Pattern) (place : Cursor) :
    Scan.step place (pattern.scanOf place.later) = pattern.scanOf (place :: place.later) := by
  cases hway : pattern.wayAt place with
  | none =>
      have hanswer : (((Scanner.ofPattern pattern).arrive (fun stop => some (Way.here stop))
          place.later).crossing place).answer (some (Way.here place)) = none := hway
      simp only [Scan.step, scanOf, hanswer, Scanner.arrive, matchAt?, hway,
        List.filterMap_cons, Option.map_none]
  | some way =>
      have hanswer : (((Scanner.ofPattern pattern).arrive (fun stop => some (Way.here stop))
          place.later).crossing place).answer (some (Way.here place)) = some way := hway
      simp only [Scan.step, scanOf, hanswer, Scanner.arrive, matchAt?, hway,
        List.filterMap_cons, Option.map_some]

theorem foldr_step_later (pattern : Pattern) (place : Cursor) :
    place.later.foldr Scan.step ⟨Scanner.ofPattern pattern, []⟩ =
      pattern.scanOf place.later := by
  obtain ⟨position, previous, rest⟩ := place
  induction rest generalizing position previous with
  | nil => rfl
  | cons c rest ih => rw [Cursor.later_cons, List.foldr_cons, ih, step_scanOf]

/-- The matches of a text are those at its places. -/
theorem matchesAt_eq (pattern : Pattern) (text : Text) :
    pattern.matchesAt text =
      (Cursor.places 0 none text).filterMap pattern.matchAt? := by
  rw [matchesAt, Cursor.places_eq, List.foldr_cons, foldr_step_later, step_scanOf, scanOf]

/-! ## Matches that count -/

variable {pattern : Pattern}

/-- Matches that start before the end of the previous match do not count. -/
theorem separate_skip (pattern : Pattern) (n : Nat) (place : Cursor)
    (h : n ≤ place.rest.length) :
    separate (some (place.position + n))
        ((place :: place.later).filterMap pattern.matchAt?) =
      separate (some (place.position + n))
        ((place.advance n :: (place.advance n).later).filterMap pattern.matchAt?) := by
  induction n generalizing place with
  | zero => rw [Cursor.advance_zero]
  | succ n ih =>
      obtain ⟨position, previous, rest⟩ := place
      cases rest with
      | nil => simp at h
      | cons c rest =>
          have hnext := ih ⟨position + 1, some c, rest⟩ (by simpa using h)
          rw [Nat.add_right_comm] at hnext
          change separate (some (position + n + 1)) _ = separate (some (position + n + 1)) _
          rw [Cursor.advance_succ, ← hnext, Cursor.later_cons]
          cases hmatch : pattern.matchAt? ⟨position, previous, c :: rest⟩ with
          | none => rw [List.filterMap_cons_none hmatch]
          | some found =>
              have hstart : found.start.position = position := by
                rw [matchAt?, Option.map_eq_some_iff] at hmatch
                obtain ⟨way, -, rfl⟩ := hmatch
                rfl
              -- The place lies before the end of the previous match.
              have hbefore : ¬ (some (position + n + 1)).all found.isBehind = true := by
                simp only [Option.all_some, Match.isBehind, hstart, Bool.and_eq_true,
                  decide_eq_true_eq, not_and]
                omega
              rw [List.filterMap_cons_some hmatch, separate, if_neg hbefore]

end Pattern

end JavadocNames
