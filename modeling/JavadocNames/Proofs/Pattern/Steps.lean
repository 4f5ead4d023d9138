import JavadocNames.Proofs.Pattern.Ways

/-!
# Patterns that go step by step

For some patterns it can be told from the front of a text what its matches are.  At each
place there is no match, and the place is passed over, or there is a match that stands for
one value, and the rest is told from the end of the match on.  Then the matches that count
stand for the values that are told, one by one.
-/

namespace JavadocNames

namespace Pattern

variable {α : Type}

/-- A match at a place, of `n + 1` characters, stands for a value.  What `told` says of the
text there is that value and what it says of the text behind the match. -/
structure IsStep (pattern : Pattern) (read : Match → Option α) (told : Text → List α)
    (place : Cursor) (found : Match) (value : α) (n : Nat) : Prop where
  isMatch : pattern.matchAt? place = some found
  isRead : read found = some value
  stop : found.way.stop = place.advance (n + 1)
  length : n + 1 ≤ place.rest.length
  goesOn : told place.rest = value :: told (place.rest.drop (n + 1))

/-- At each place the pattern has no match and nothing is told, or it makes a step. -/
structure GoesByStep (pattern : Pattern) (read : Match → Option α) (told : Text → List α) :
    Prop where
  told_nil : told [] = []
  atEnd : ∀ place : Cursor, place.rest = [] → pattern.matchAt? place = none
  step : ∀ (place : Cursor) (c : Char) (rest : Text), place.rest = c :: rest →
    (pattern.matchAt? place = none ∧ told place.rest = told rest) ∨
      ∃ found value n, pattern.IsStep read told place found value n

variable {pattern : Pattern} {read : Match → Option α} {told : Text → List α}

theorem start_of_matchAt? {place : Cursor} {found : Match}
    (h : pattern.matchAt? place = some found) : found.start = place := by
  rw [matchAt?, Option.map_eq_some_iff] at h
  obtain ⟨way, -, rfl⟩ := h
  rfl

/-- The match of a step counts, and the matches inside it do not. -/
theorem IsStep.separate_eq {place : Cursor} {found : Match} {value : α} {n : Nat}
    (h : pattern.IsStep read told place found value n) {last : Option Nat}
    (hlast : ∀ stop ∈ last, stop ≤ place.position) :
    separate last ((place :: place.later).filterMap pattern.matchAt?) =
      found :: separate (some (place.advance (n + 1)).position)
        ((place.advance (n + 1) :: (place.advance (n + 1)).later).filterMap
          pattern.matchAt?) := by
  have hn := h.length
  have hstart := start_of_matchAt? h.isMatch
  have hposition := Cursor.position_advance hn
  have hbehind : last.all found.isBehind = true := by
    cases last with
    | none => rfl
    | some stop =>
        have hle := hlast stop rfl
        simp only [Option.all_some, Match.isBehind, hstart, h.stop, hposition,
          Bool.and_eq_true, decide_eq_true_eq]
        omega
  cases hrest : place.rest with
  | nil =>
      rw [hrest] at hn
      contradiction
  | cons c rest =>
      have hnext : (place.advance 1).position = place.position + 1 := by
        apply Cursor.position_advance
        omega
      have hend : (place.advance (n + 1)).position = (place.advance 1).position + n := by
        rw [hposition, hnext]
        omega
      have hinside : n ≤ (place.advance 1).rest.length := by
        rw [Cursor.rest_advance, List.length_drop]
        omega
      -- Matches at places inside the step start before its end.
      have hskip := separate_skip pattern n (place.advance 1) hinside
      rw [Cursor.advance_advance, Nat.add_comm 1 n, ← hend] at hskip
      rw [List.filterMap_cons_some h.isMatch, separate, if_pos hbehind, h.stop,
        Cursor.later_eq_advance hrest, hskip]

/-- The matches from a place on that count stand for what is told of the text there. -/
theorem GoesByStep.map_separate (h : pattern.GoesByStep read told) (place : Cursor)
    (last : Option Nat) (hlast : ∀ stop ∈ last, stop ≤ place.position) :
    (separate last ((place :: place.later).filterMap pattern.matchAt?)).map read =
      (told place.rest).map some := by
  cases hrest : place.rest with
  | nil =>
      have hlater : place.later = [] := by rw [Cursor.later, hrest]
      rw [hlater, List.filterMap_cons_none (h.atEnd place hrest), h.told_nil]
      rfl
  | cons c rest =>
      rcases h.step place c rest hrest with ⟨hnone, hpass⟩ | ⟨found, value, n, hstep⟩
      · -- The place is passed over, and the end of the last match stays behind.
        have hposition : place.position ≤ (place.advance 1).position := by
          rw [Cursor.position_advance (by rw [hrest]; exact Nat.succ_pos _)]
          omega
        have hnext := h.map_separate (place.advance 1) last
          fun stop hstop => Nat.le_trans (hlast stop hstop) hposition
        have htail : (place.advance 1).rest = rest := by
          rw [Cursor.rest_advance, hrest]
          rfl
        rw [List.filterMap_cons_none hnone, Cursor.later_eq_advance hrest, hnext, htail,
          ← hpass, hrest]
      · -- The end of the match is the end of the last match from there on.
        have hafter := h.map_separate (place.advance (n + 1))
          (some (place.advance (n + 1)).position) (by simp)
        have hn := hstep.length
        rw [hstep.separate_eq hlast, List.map_cons, hstep.isRead, hafter,
          Cursor.rest_advance, ← hrest, hstep.goesOn, List.map_cons]
termination_by place.rest.length
decreasing_by
  all_goals
    rw [Cursor.rest_advance, List.length_drop]
    simp only [hrest, List.length_cons]
    omega

/-- The matches of a text stand for what is told of it, and each of them stands for
something. -/
theorem GoesByStep.map_matchesOf (h : pattern.GoesByStep read told) (text : Text) :
    (pattern.matchesOf text).map read = (told text).map some := by
  rw [matchesOf, matchesAt_eq, Cursor.places_eq]
  exact h.map_separate ⟨0, none, text⟩ none (by simp)

end Pattern

end JavadocNames
