import JavadocNames.Pattern.Basic

/-!
# Scanners

A scanner moves through a text from its end to its beginning, one place at a time.
Each of its parts that stands for a character knows the preferred way from the next
place to the end of a match, so the preferred way from the present place is found
without trying anything twice.

A round of a loop that uses up no character is only good as the first round, and
no other round follows it.
-/

namespace JavadocNames

/-- The first way if there is one, else the second. -/
def firstOf (first second : Option Way) : Option Way :=
  first.or second

/-- How a part of a pattern can be crossed from a place. -/
inductive Crossing where
  /-- All ways lead to other places, and the preferred one is known. -/
  | decided (way : Option Way)
  /-- The part can be crossed on the spot, past some marks; only when what follows
  does not match here, the way `otherwise` counts. -/
  | onTheSpot (marks : List Mark) (otherwise : Option Way)

namespace Crossing

/-- The preferred way, where `next` is the preferred way of what follows. -/
def answer (crossing : Crossing) (next : Option Way) : Option Way :=
  match crossing with
  | decided way => way
  | onTheSpot marks otherwise => firstOf (next.map (Way.after marks)) otherwise

/-- The preferred way among those that lead to other places. -/
def elsewhere : Crossing → Option Way
  | decided way => way
  | onTheSpot _ otherwise => otherwise

/-- Add a way that counts when all others fail. -/
def orWay (crossing : Crossing) (way : Option Way) : Crossing :=
  match crossing with
  | decided first => decided (firstOf first way)
  | onTheSpot marks otherwise => onTheSpot marks (firstOf otherwise way)

/-- Pass some marks before. -/
def after (marks : List Mark) : Crossing → Crossing
  | decided way => decided (way.map (Way.after marks))
  | onTheSpot inner otherwise =>
      onTheSpot (marks ++ inner) (otherwise.map (Way.after marks))

end Crossing

/-- A pattern on its way through a text. -/
inductive Scanner where
  | empty
  /-- A character of a set; `next` is the preferred way from the next place on. -/
  | one (set : CharSet) (next : Option Way)
  | anchor (condition : Anchor)
  | group (index : Nat) (body : Scanner)
  | sequence (first second : Scanner)
  | choice (first second : Scanner)
  /-- At least one round. -/
  | loop (greedy : Bool) (body : Scanner)

namespace Scanner

/-- At most one round. -/
def atMostOne (greedy : Bool) (body : Scanner) : Scanner :=
  if greedy then choice body empty else choice empty body

/-- At most a number of rounds. -/
def atMost (greedy : Bool) (body : Scanner) : Nat → Scanner
  | 0 => empty
  | n + 1 => atMostOne greedy (sequence body (atMost greedy body n))

/-- A fixed number of rounds, laid out by halves. -/
def exactly (body : Scanner) (n : Nat) : Scanner :=
  if n = 0 then empty
  else if n = 1 then body
  else
    let half := exactly body (n / 2)
    let even := sequence half half
    if n % 2 = 0 then even else sequence even body

/-- From `least` to `most` rounds; without `most`, any number from `least` on. -/
def rounds (greedy : Bool) (least : Nat) (most : Option Nat) (body : Scanner) :
    Scanner :=
  match least, most with
  | 0, none => atMostOne greedy (loop greedy body)
  | 1, none => loop greedy body
  | n + 2, none => sequence (exactly body (n + 1)) (loop greedy body)
  | 0, some n => atMost greedy body n
  | n + 1, some m => sequence (exactly body (n + 1)) (atMost greedy body (m - (n + 1)))

/-- The scanner of a pattern, behind the end of all texts. -/
def ofPattern : Pattern → Scanner
  | .empty => empty
  | .one set => one set none
  | .anchor condition => anchor condition
  | .group index body => group index (ofPattern body)
  | .sequence first second => sequence (ofPattern first) (ofPattern second)
  | .choice first second => choice (ofPattern first) (ofPattern second)
  | .repeated greedy least most body => rounds greedy least most (ofPattern body)

/-- How the pattern can be crossed from a place. -/
def crossing : Scanner → Cursor → Crossing
  | empty, _ => .onTheSpot [] none
  | one set next, place =>
      match place.rest with
      | [] => .decided none
      | c :: _ => .decided (if set.contains c then next else none)
  | anchor condition, place =>
      if place.satisfies condition then .onTheSpot [] none else .decided none
  | group index body, place =>
      match crossing body place with
      | .decided way => .decided (way.map (Way.after [.opened index place]))
      | .onTheSpot marks otherwise =>
          .onTheSpot (.opened index place :: marks ++ [.closed index place])
            (otherwise.map (Way.after [.opened index place]))
  | sequence first second, place =>
      match crossing first place with
      | .decided way => .decided way
      | .onTheSpot marks otherwise =>
          ((crossing second place).after marks).orWay otherwise
  | choice first second, place =>
      match crossing first place with
      | .decided (some way) => .decided (some way)
      | .decided none => crossing second place
      | .onTheSpot marks otherwise =>
          .onTheSpot marks (firstOf otherwise (crossing second place).elsewhere)
  | loop _ body, place => crossing body place

/-- Move on from a place to the one before it, where `next` is the preferred way
of what follows the pattern at the place left behind. -/
def retreat : Scanner → Cursor → Option Way → Scanner
  | empty, _, _ => empty
  | one set _, _, next => one set next
  | anchor condition, _, _ => anchor condition
  | group index body, place, next =>
      group index (retreat body place (next.map (Way.after [.closed index place])))
  | sequence first second, place, next =>
      sequence (retreat first place ((crossing second place).answer next))
        (retreat second place next)
  | choice first second, place, next =>
      choice (retreat first place next) (retreat second place next)
  | loop greedy body, place, next =>
      let again := (crossing body place).elsewhere
      loop greedy
        (retreat body place (if greedy then firstOf again next else firstOf next again))

/-! ## Laws of crossing -/

/-- A sequence is crossed by crossing its first part towards its second. -/
theorem answer_sequence (first second : Scanner) (place : Cursor) (next : Option Way) :
    ((sequence first second).crossing place).answer next =
      (first.crossing place).answer ((second.crossing place).answer next) := by
  rw [crossing]
  cases first.crossing place with
  | decided way => rfl
  | onTheSpot marks otherwise =>
      cases second.crossing place <;> cases next <;> cases otherwise <;>
        simp [Crossing.after, Crossing.orWay, Crossing.answer, firstOf, Way.after,
          List.append_assoc]

/-- A choice is crossed by its first branch if that leads to the end, else by its
second. -/
theorem answer_choice (first second : Scanner) (place : Cursor) (next : Option Way) :
    ((choice first second).crossing place).answer next =
      firstOf ((first.crossing place).answer next)
        ((second.crossing place).answer next) := by
  rw [crossing]
  cases first.crossing place with
  | decided way => cases way <;> simp [Crossing.answer, firstOf]
  | onTheSpot marks otherwise =>
      cases second.crossing place <;> cases next <;> cases otherwise <;>
        simp [Crossing.answer, Crossing.elsewhere, firstOf]

end Scanner

end JavadocNames
