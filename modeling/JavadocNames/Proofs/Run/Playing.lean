import JavadocNames.Script

/-!
# Playing scripts

A script is played part by part: what follows a part is played where that part has left its
sink and its journal, unless the part has failed.  Most scripts pass on every answer of
their sink.  From a given journal such a script takes the same steps whatever its sink is;
it stops at the first step that is refused, and otherwise it comes to its own end.
-/

namespace JavadocNames

namespace Script

variable {α β : Type}

/-! ## Part by part -/

theorem play_pure (a : α) (sink : Sink) (journal : Journal) :
    (pure a : Script α).play sink journal = (sink, journal, .ok a) := rfl

theorem play_ofExcept (result : Except Failure α) (sink : Sink) (journal : Journal) :
    (ofExcept result).play sink journal = (sink, journal, result) := rfl

theorem play_write (bytes : Bytes) (sink : Sink) (journal : Journal) :
    (write bytes).play sink journal = ((sink.write bytes).1, journal, (sink.write bytes).2) := rfl

theorem play_flush (sink : Sink) (journal : Journal) :
    flush.play sink journal = (sink.flush.1, journal, sink.flush.2) := rfl

theorem play_tell (entry : Entry) (sink : Sink) (journal : Journal) :
    (tell entry).play sink journal = (sink, journal.take entry, .ok ()) := rfl

/-- A script is played behind another one where that one has ended, if it did not fail. -/
theorem play_bind (s : Script α) (f : α → Script β) (sink : Sink) (journal : Journal) :
    (s >>= f).play sink journal =
      match s.play sink journal with
      | (sink, journal, .ok a) => (f a).play sink journal
      | (sink, journal, .error failure) => (sink, journal, .error failure) := by
  change play (ExceptT.bind s f) sink journal = _
  simp only [play, ExceptT.run, ExceptT.bind, ExceptT.mk, bind, StateT.bind]
  rcases s ⟨sink, journal⟩ with ⟨_ | _, _⟩
  · rfl
  · rfl

/-- A direct sink has nothing to flush. -/
theorem play_flush_of_direct {α : Type} (s : Script α) {sink : Sink} {journal : Journal}
    {device : Device} (h : (s.play sink journal).1 = .direct device) :
    (do let a ← s; flush; return a : Script α).play sink journal = s.play sink journal := by
  rw [play_bind]
  cases hs : s.play sink journal with
  | mk sink' rest =>
      obtain ⟨journal', _ | a⟩ := rest
      · rfl
      · rw [hs] at h
        obtain rfl : sink' = .direct device := h
        rfl

end Script

/-! ## Steps -/

/-- One thing that a script does with its sink or its journal. -/
inductive Step where
  | write (bytes : Bytes)
  | flush
  | tell (entry : Entry)

namespace Step

/-- The script that makes the step. -/
def script : Step → Script Unit
  | write bytes => Script.write bytes
  | flush => Script.flush
  | tell entry => Script.tell entry

/-- The bytes that a step writes. -/
def bytes : Step → Bytes
  | write bytes => bytes
  | flush => []
  | tell _ => []

/-- The message that a step tells. -/
def entry? : Step → Option Entry
  | write _ => none
  | flush => none
  | tell entry => some entry

/-- The bytes of all steps. -/
def written (steps : List Step) : Bytes :=
  steps.flatMap bytes

/-- The journal when all steps have been made. -/
def told (steps : List Step) (journal : Journal) : Journal :=
  (steps.filterMap entry?).foldl Journal.take journal

theorem written_cons (step : Step) (rest : List Step) :
    written (step :: rest) = step.bytes ++ written rest :=
  List.flatMap_cons

theorem told_append (first rest : List Step) (journal : Journal) :
    told (first ++ rest) journal = told rest (told first journal) := by
  rw [told, List.filterMap_append, List.foldl_append]
  rfl

theorem told_cons (step : Step) (rest : List Step) (journal : Journal) :
    told (step :: rest) journal = told rest (told [step] journal) :=
  told_append [step] rest journal

end Step

namespace Script

variable {α β : Type}

/-- The script that makes steps and ends in a result. -/
def ofSteps (result : Except Failure α) : List Step → Script α
  | [] => ofExcept result
  | step :: rest => do
      step.script
      ofSteps result rest

theorem play_ofSteps_append (result : Except Failure α) (first rest : List Step) (sink : Sink)
    (journal : Journal) :
    (ofSteps result (first ++ rest)).play sink journal =
      match (ofSteps (.ok ()) first).play sink journal with
      | (sink, journal, .ok ()) => (ofSteps result rest).play sink journal
      | (sink, journal, .error failure) => (sink, journal, .error failure) := by
  induction first generalizing sink journal with
  | nil => rfl
  | cons step later ih =>
      rw [List.cons_append, ofSteps, ofSteps, play_bind, play_bind]
      rcases step.script.play sink journal with ⟨sink', journal', _ | _⟩
      · rfl
      · exact ih sink' journal'

/-- The result is that of the last step, or it is told by the step that is refused. -/
theorem play_ofSteps (result : Except Failure α) (steps : List Step) (sink : Sink)
    (journal : Journal) :
    (ofSteps result steps).play sink journal =
      match (ofSteps (.ok ()) steps).play sink journal with
      | (sink, journal, .ok ()) => (sink, journal, result)
      | (sink, journal, .error failure) => (sink, journal, .error failure) := by
  have happend := play_ofSteps_append result steps [] sink journal
  rwa [List.append_nil] at happend

/-- The journal is told the message of a step, if it has one, whatever the sink answers. -/
theorem exists_play_step (step : Step) (sink : Sink) (journal : Journal) :
    ∃ sink' answer, step.script.play sink journal = (sink', Step.told [step] journal, answer) := by
  cases step with
  | write bytes => exact ⟨_, _, rfl⟩
  | flush => exact ⟨_, _, rfl⟩
  | tell entry => exact ⟨_, _, rfl⟩

/-- Where all steps have been made, the journal has been told all their messages. -/
theorem journal_of_play_ofSteps {steps : List Step} {sink sink' : Sink}
    {journal journal' : Journal}
    (h : (ofSteps (.ok ()) steps).play sink journal = (sink', journal', .ok ())) :
    journal' = Step.told steps journal := by
  induction steps generalizing sink journal with
  | nil => exact (Prod.mk.inj (Prod.mk.inj h).2).1.symm
  | cons step later ih =>
      obtain ⟨next, answer, hstep⟩ := exists_play_step step sink journal
      rw [ofSteps, play_bind, hstep] at h
      rw [Step.told_cons]
      cases answer with
      | error failure => exact nomatch (Prod.mk.inj (Prod.mk.inj h).2).2
      | ok => exact ih h

/-! ## Scripts that pass on refusals -/

/-- The script passes on every refusal of its sink.  From a given journal its steps and its
result do not depend on the sink, but it ends with the first step that the sink refuses. -/
def Propagates (s : Script α) : Prop :=
  ∀ journal, ∃ steps result, ∀ sink, s.play sink journal = (ofSteps result steps).play sink journal

theorem propagates_pure (a : α) : (pure a : Script α).Propagates :=
  fun _ => ⟨[], .ok a, fun _ => rfl⟩

theorem propagates_ofExcept (result : Except Failure α) : (ofExcept result).Propagates :=
  fun _ => ⟨[], result, fun _ => rfl⟩

theorem propagates_tell (entry : Entry) : (tell entry).Propagates :=
  fun _ => ⟨[.tell entry], .ok (), fun _ => rfl⟩

theorem propagates_now (disk : Disk) : (now disk).Propagates :=
  fun journal => ⟨[], .ok (journal.save disk), fun _ => rfl⟩

theorem propagates_step (step : Step) : step.script.Propagates := by
  refine fun journal => ⟨[step], .ok (), fun sink => ?_⟩
  rw [ofSteps, play_bind]
  rcases step.script.play sink journal with ⟨_, _, _ | _⟩
  · rfl
  · rfl

theorem propagates_writeLine (text : Text) : (writeLine text).Propagates :=
  propagates_step (.write _)

theorem propagates_flush : flush.Propagates :=
  propagates_step .flush

/-- What follows a script that passes on refusals is played only where none came up. -/
theorem Propagates.bind {s : Script α} {f : α → Script β} (hs : s.Propagates)
    (hf : ∀ a, (f a).Propagates) : (s >>= f).Propagates := by
  intro journal
  obtain ⟨steps, result, hplay⟩ := hs journal
  cases result with
  | error failure =>
      -- What follows is never reached.
      refine ⟨steps, .error failure, fun sink => ?_⟩
      rw [play_bind, hplay, play_ofSteps, play_ofSteps (.error failure : Except Failure β)]
      rcases (ofSteps (.ok ()) steps).play sink journal with ⟨_, _, _ | _⟩
      · rfl
      · rfl
  | ok a =>
      -- Where all steps were made, the journal is the same for every sink, so that the steps
      -- of what follows are, too.
      obtain ⟨more, result, hmore⟩ := hf a (Step.told steps journal)
      refine ⟨steps ++ more, result, fun sink => ?_⟩
      rw [play_bind, hplay, play_ofSteps, play_ofSteps_append]
      cases hsteps : (ofSteps (.ok ()) steps).play sink journal with
      | mk sink' rest =>
          obtain ⟨journal', _ | _⟩ := rest
          · rfl
          · rw [journal_of_play_ofSteps hsteps]
            exact hmore sink'

theorem propagates_forM {f : α → Script Unit} (hf : ∀ a, (f a).Propagates) (l : List α) :
    (l.forM f).Propagates := by
  induction l with
  | nil => exact propagates_pure ()
  | cons a rest ih => exact (hf a).bind fun _ => ih

/-! ## Outcomes -/

/-- What a script leaves in a sink without limit, and its result. -/
def outcome (s : Script α) (journal : Journal) : Bytes × Except Failure α :=
  let (sink, _, result) := s.play (.empty none) journal
  (sink.accepted, result)

end Script

end JavadocNames
