import JavadocNames.Pattern.Matching

/-!
# Groups are excerpts

The marks of a match stand at places of the text that is searched.  This holds of every
way that a scanner knows, and neither a crossing nor a retreat makes it false, so the
text of a group is an excerpt of that text.
-/

namespace JavadocNames

/-- The place is in a text: what follows it there is the rest of the text. -/
def Cursor.IsIn (text : Text) (place : Cursor) : Prop :=
  place.rest <:+ text

theorem Cursor.isIn_of_mem_places {position : Nat} {previous : Option Char} {text : Text}
    {place : Cursor} (h : place ∈ places position previous text) : place.IsIn text := by
  induction text generalizing position previous with
  | nil =>
      rw [places, List.mem_singleton] at h
      rw [h]
      exact List.suffix_rfl
  | cons c rest ih =>
      rw [places, List.mem_cons] at h
      rcases h with rfl | h
      · exact List.suffix_rfl
      · exact (ih h).trans (List.suffix_cons c rest)

namespace Mark

/-- The place of a mark. -/
def place : Mark → Cursor
  | opened _ place => place
  | closed _ place => place

/-- All marks stand in a text. -/
def AllIn (text : Text) (marks : List Mark) : Prop :=
  ∀ mark ∈ marks, mark.place.IsIn text

variable {text : Text}

theorem allIn_nil : AllIn text [] := fun _ hmark => absurd hmark List.not_mem_nil

theorem AllIn.append {first second : List Mark} (hfirst : AllIn text first)
    (hsecond : AllIn text second) : AllIn text (first ++ second) := fun mark hmark =>
  (List.mem_append.mp hmark).elim (hfirst mark) (hsecond mark)

theorem allIn_singleton {mark : Mark} (h : mark.place.IsIn text) : AllIn text [mark] := by
  intro other hother
  rw [List.mem_singleton.mp hother]
  exact h

end Mark

namespace Way

/-- The way, if there is one, marks places of a text only. -/
def IsIn (text : Text) (way : Option Way) : Prop :=
  ∀ w ∈ way, Mark.AllIn text w.marks

variable {text : Text} {first second way : Option Way} {marks : List Mark}

theorem isIn_none : IsIn text none := fun _ hw => by contradiction

theorem isIn_here (place : Cursor) : IsIn text (some (here place)) := by
  rintro w ⟨⟩
  exact Mark.allIn_nil

theorem IsIn.map_after (hmarks : Mark.AllIn text marks) (hway : IsIn text way) :
    IsIn text (way.map (after marks)) := by
  intro w hw
  obtain ⟨inner, hinner, rfl⟩ := Option.map_eq_some_iff.mp hw
  exact hmarks.append (hway inner hinner)

theorem IsIn.firstOf (hfirst : IsIn text first) (hsecond : IsIn text second) :
    IsIn text (firstOf first second) := by
  cases first with
  | none => exact hsecond
  | some w => exact hfirst

end Way

namespace Crossing

/-- The ways and the marks of a crossing are in a text. -/
def IsIn (text : Text) : Crossing → Prop
  | decided way => Way.IsIn text way
  | onTheSpot marks otherwise => Mark.AllIn text marks ∧ Way.IsIn text otherwise

variable {text : Text} {crossing : Crossing} {way : Option Way} {marks : List Mark}

theorem IsIn.answer (hcrossing : crossing.IsIn text) (hway : Way.IsIn text way) :
    Way.IsIn text (crossing.answer way) := by
  cases crossing with
  | decided known => exact hcrossing
  | onTheSpot marks otherwise => exact (hway.map_after hcrossing.1).firstOf hcrossing.2

theorem IsIn.elsewhere (hcrossing : crossing.IsIn text) : Way.IsIn text crossing.elsewhere := by
  cases crossing with
  | decided known => exact hcrossing
  | onTheSpot marks otherwise => exact hcrossing.2

theorem IsIn.orWay (hcrossing : crossing.IsIn text) (hway : Way.IsIn text way) :
    (crossing.orWay way).IsIn text := by
  cases crossing with
  | decided known => exact Way.IsIn.firstOf hcrossing hway
  | onTheSpot marks otherwise => exact ⟨hcrossing.1, hcrossing.2.firstOf hway⟩

theorem IsIn.after (hmarks : Mark.AllIn text marks) (hcrossing : crossing.IsIn text) :
    (crossing.after marks).IsIn text := by
  cases crossing with
  | decided known => exact Way.IsIn.map_after hmarks hcrossing
  | onTheSpot inner otherwise =>
      exact ⟨hmarks.append hcrossing.1, hcrossing.2.map_after hmarks⟩

end Crossing

namespace Scanner

/-- All ways that the scanner knows are in a text. -/
def IsIn (text : Text) : Scanner → Prop
  | empty => True
  | one _ next => Way.IsIn text next
  | anchor _ => True
  | group _ body => body.IsIn text
  | sequence first second => first.IsIn text ∧ second.IsIn text
  | choice first second => first.IsIn text ∧ second.IsIn text
  | loop _ body => body.IsIn text

variable {text : Text}

/-! ## Behind the end -/

theorem IsIn.atMostOne {body : Scanner} (greedy : Bool) (h : body.IsIn text) :
    (Scanner.atMostOne greedy body).IsIn text := by
  cases greedy with
  | false => exact ⟨trivial, h⟩
  | true => exact ⟨h, trivial⟩

theorem IsIn.atMost {body : Scanner} (greedy : Bool) (h : body.IsIn text) (n : Nat) :
    (Scanner.atMost greedy body n).IsIn text := by
  induction n with
  | zero => trivial
  | succ n ih =>
      have hround : (sequence body (Scanner.atMost greedy body n)).IsIn text := ⟨h, ih⟩
      exact hround.atMostOne greedy

theorem IsIn.exactly {body : Scanner} (h : body.IsIn text) (n : Nat) :
    (Scanner.exactly body n).IsIn text := by
  induction n using Nat.strongRecOn with
  | ind n ih =>
      unfold Scanner.exactly
      split
      · trivial
      split
      · exact h
      have hhalf := ih (n / 2) (by omega)
      simp only
      split
      · exact ⟨hhalf, hhalf⟩
      · exact ⟨⟨hhalf, hhalf⟩, h⟩

theorem IsIn.rounds {body : Scanner} (greedy : Bool) (least : Nat) (most : Option Nat)
    (h : body.IsIn text) : (Scanner.rounds greedy least most body).IsIn text := by
  unfold Scanner.rounds
  split
  · have hloop : (loop greedy body).IsIn text := h
    exact hloop.atMostOne greedy
  · exact h
  · exact ⟨h.exactly _, h⟩
  · exact h.atMost greedy _
  · exact ⟨h.exactly _, h.atMost greedy _⟩

theorem isIn_ofPattern (pattern : Pattern) : (ofPattern pattern).IsIn text := by
  induction pattern with
  | empty => trivial
  | one set => exact Way.isIn_none
  | anchor condition => trivial
  | group index body ih => exact ih
  | sequence first second ihfirst ihsecond => exact ⟨ihfirst, ihsecond⟩
  | choice first second ihfirst ihsecond => exact ⟨ihfirst, ihsecond⟩
  | repeated greedy least most body ih => exact ih.rounds greedy least most

/-! ## On the way -/

theorem IsIn.crossing {s : Scanner} {place : Cursor} (hs : s.IsIn text)
    (hplace : place.IsIn text) : (s.crossing place).IsIn text := by
  induction s with
  | empty => exact ⟨Mark.allIn_nil, Way.isIn_none⟩
  | one set next =>
      rw [Scanner.crossing]
      split
      · exact Way.isIn_none
      · split
        · exact hs
        · exact Way.isIn_none
  | anchor condition =>
      rw [Scanner.crossing]
      split
      · exact ⟨Mark.allIn_nil, Way.isIn_none⟩
      · exact Way.isIn_none
  | group index body ih =>
      have hbody := ih hs
      have hopened : Mark.AllIn text [.opened index place] := Mark.allIn_singleton hplace
      have hclosed : Mark.AllIn text [.closed index place] := Mark.allIn_singleton hplace
      rw [Scanner.crossing]
      cases hform : body.crossing place with
      | decided way =>
          rw [hform] at hbody
          exact Way.IsIn.map_after hopened hbody
      | onTheSpot marks otherwise =>
          -- The group begins and ends at the same place.
          rw [hform] at hbody
          exact ⟨(hopened.append hbody.1).append hclosed, hbody.2.map_after hopened⟩
  | sequence first second ihfirst ihsecond =>
      have hfirst := ihfirst hs.1
      rw [Scanner.crossing]
      cases hform : first.crossing place with
      | decided way =>
          rw [hform] at hfirst
          exact hfirst
      | onTheSpot marks otherwise =>
          rw [hform] at hfirst
          exact ((ihsecond hs.2).after hfirst.1).orWay hfirst.2
  | choice first second ihfirst ihsecond =>
      have hfirst := ihfirst hs.1
      have hsecond := ihsecond hs.2
      rw [Scanner.crossing]
      cases hform : first.crossing place with
      | decided way =>
          rw [hform] at hfirst
          cases way with
          | none => exact hsecond
          | some way => exact hfirst
      | onTheSpot marks otherwise =>
          rw [hform] at hfirst
          exact ⟨hfirst.1, hfirst.2.firstOf hsecond.elsewhere⟩
  | loop greedy body ih => exact ih hs

/-- Moving on to the place before keeps all ways in the text. -/
theorem IsIn.retreat {s : Scanner} {place : Cursor} {next : Option Way} (hs : s.IsIn text)
    (hplace : place.IsIn text) (hnext : Way.IsIn text next) :
    (s.retreat place next).IsIn text := by
  -- Each part is told another way of what follows it.
  induction s generalizing next with
  | empty => trivial
  | one set known => exact hnext
  | anchor condition => trivial
  | group index body ih =>
      have hclosed : Mark.AllIn text [.closed index place] := Mark.allIn_singleton hplace
      exact ih hs (hnext.map_after hclosed)
  | sequence first second ihfirst ihsecond =>
      -- What follows the first part is the second one, as it is before the retreat.
      exact ⟨ihfirst hs.1 ((hs.2.crossing hplace).answer hnext), ihsecond hs.2 hnext⟩
  | choice first second ihfirst ihsecond => exact ⟨ihfirst hs.1 hnext, ihsecond hs.2 hnext⟩
  | loop greedy body ih =>
      have hagain : Way.IsIn text (body.crossing place).elsewhere :=
        (IsIn.crossing (s := body) hs hplace).elsewhere
      cases greedy with
      | false => exact ih hs (hnext.firstOf hagain)
      | true => exact ih hs (hagain.firstOf hnext)

end Scanner

namespace Pattern

variable {text : Text}

/-- The scanner and all matches that it has found are in a text. -/
structure Scan.IsIn (text : Text) (scan : Scan) : Prop where
  scanner : scan.scanner.IsIn text
  found : ∀ m ∈ scan.found, Mark.AllIn text m.way.marks

theorem Scan.IsIn.step {scan : Scan} {place : Cursor} (hscan : scan.IsIn text)
    (hplace : place.IsIn text) : (Scan.step place scan).IsIn text := by
  have hanswer := (hscan.scanner.crossing hplace).answer (Way.isIn_here place)
  refine ⟨hscan.scanner.retreat hplace (Way.isIn_here place), ?_⟩
  intro m hm
  simp only [Scan.step] at hm
  split at hm
  · rename_i way hway
    rcases List.mem_cons.mp hm with rfl | hm
    · exact hanswer way hway
    · exact hscan.found m hm
  · exact hscan.found m hm

theorem Scan.isIn_foldr {scan : Scan} (hscan : scan.IsIn text) (places : List Cursor)
    (hplaces : ∀ place ∈ places, place.IsIn text) :
    (places.foldr Scan.step scan).IsIn text := by
  induction places with
  | nil => exact hscan
  | cons place rest ih =>
      have hrest := ih fun other hother => hplaces other (List.mem_cons_of_mem place hother)
      exact hrest.step (hplaces place List.mem_cons_self)

theorem mem_of_mem_separate {found : List Match} {last : Option Nat} {m : Match}
    (h : m ∈ separate last found) : m ∈ found := by
  induction found generalizing last with
  | nil => exact h
  | cons first others ih =>
      rw [separate] at h
      split at h
      · rcases List.mem_cons.mp h with rfl | h
        · exact List.mem_cons_self
        · exact List.mem_cons_of_mem first (ih h)
      · exact List.mem_cons_of_mem first (ih h)

/-- The marks of a match stand in the text. -/
theorem allIn_of_mem_matchesOf {pattern : Pattern} {m : Match}
    (h : m ∈ pattern.matchesOf text) : Mark.AllIn text m.way.marks := by
  have hstart : (Scan.mk (Scanner.ofPattern pattern) []).IsIn text :=
    ⟨Scanner.isIn_ofPattern pattern, fun _ hm => absurd hm List.not_mem_nil⟩
  have hend := Scan.isIn_foldr hstart (Cursor.places 0 none text)
    fun _ hplace => Cursor.isIn_of_mem_places hplace
  exact hend.found m (mem_of_mem_separate h)

end Pattern

/-- The text of a group is an excerpt of the text where the marks stand. -/
theorem Way.infix_of_groupText? {text group : Text} {way : Way} {index : Nat}
    (hway : Mark.AllIn text way.marks) (h : way.groupText? index = some group) :
    group <:+: text := by
  simp only [groupText?, Option.bind_eq_bind, Option.bind_eq_some_iff] at h
  obtain ⟨first, hfirst, last, hlast, hgroup⟩ := h
  obtain ⟨mark, hmark, hopened⟩ := List.exists_of_findSome?_eq_some hfirst
  have hin := hway mark (List.mem_reverse.mp hmark)
  have hplace : mark.place = first := by
    cases mark with
    | opened other place =>
        simp only [Mark.openedAt?] at hopened
        split at hopened
        · exact Option.some.inj hopened
        · contradiction
    | closed other place => contradiction
  rw [hplace] at hin
  obtain rfl := Option.some.inj hgroup
  exact (List.take_prefix _ first.rest).isInfix.trans hin.isInfix

end JavadocNames
