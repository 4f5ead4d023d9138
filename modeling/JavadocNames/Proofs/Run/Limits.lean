import JavadocNames.Proofs.Run.Playing
import JavadocNames.Proofs.Run.Sinks
import JavadocNames.Run

/-!
# Sinks with a limit

A sink with a limit takes the first bytes and refuses the next one.  Whatever writes lines
passes the refusal on: a header and the records of a document line by line, and a run
document by document, also when it keeps going over documents that cannot be read.  So what
is written is cut at the limit: the sink ends up with the beginning of what a sink without
limit takes, nothing is done behind the write that is refused, and the failure tells that
the sink is full.
-/

namespace JavadocNames

open Sink

namespace Script

variable {α : Type} {limit : Option Nat} {accepted : Bytes}

/-! ## Steps on a direct sink -/

theorem append_written_cons (accepted : Bytes) (step : Step) (rest : List Step) :
    accepted ++ Step.written (step :: rest) =
      accepted ++ step.bytes ++ Step.written rest := by
  rw [Step.written_cons, List.append_assoc]

/-- A step whose bytes fit is made. -/
theorem play_step_of_holds {step : Step} (h : Holds limit (accepted ++ step.bytes))
    (journal : Journal) :
    step.script.play (.direct ⟨limit, accepted⟩) journal =
      (.direct ⟨limit, accepted ++ step.bytes⟩, Step.told [step] journal, .ok ()) := by
  cases step with
  | write bytes =>
      have hwrite := write_direct_of_holds h
      rw [Step.script, play_write]
      exact congrArg (fun answer => (answer.1, journal, answer.2)) hwrite
  | flush =>
      rw [Step.bytes, List.append_nil]
      rfl
  | tell entry =>
      rw [Step.bytes, List.append_nil]
      rfl

/-- A step whose bytes do not fit is refused. -/
theorem play_step_of_not_holds {step : Step} (haccepted : Holds limit accepted)
    (h : ¬ Holds limit (accepted ++ step.bytes)) (journal : Journal) :
    step.script.play (.direct ⟨limit, accepted⟩) journal =
      (.direct ⟨limit, cut limit (accepted ++ step.bytes)⟩, journal, .error .sinkFull) := by
  cases step with
  | write bytes =>
      have hwrite := write_direct_of_not_holds haccepted h
      rw [Step.script, play_write]
      exact congrArg (fun answer => (answer.1, journal, answer.2)) hwrite
  | flush =>
      rw [Step.bytes, List.append_nil] at h
      exact absurd haccepted h
  | tell entry =>
      rw [Step.bytes, List.append_nil] at h
      exact absurd haccepted h

/-- Steps whose bytes fit are all made. -/
theorem play_ofSteps_of_holds (result : Except Failure α) (steps : List Step)
    (h : Holds limit (accepted ++ Step.written steps)) (journal : Journal) :
    (ofSteps result steps).play (.direct ⟨limit, accepted⟩) journal =
      (.direct ⟨limit, accepted ++ Step.written steps⟩, Step.told steps journal, result) := by
  induction steps generalizing accepted journal with
  | nil =>
      rw [Step.written, List.flatMap_nil, List.append_nil]
      rfl
  | cons step rest ih =>
      rw [append_written_cons] at h ⊢
      rw [ofSteps, play_bind, play_step_of_holds h.of_append, Step.told_cons step rest]
      exact ih h _

/-- Of steps whose bytes do not fit, those before the first one that does not fit are made. -/
theorem play_ofSteps_of_not_holds (result : Except Failure α) (steps : List Step)
    (haccepted : Holds limit accepted) (h : ¬ Holds limit (accepted ++ Step.written steps))
    (journal : Journal) :
    ∃ made left, steps = made ++ left ∧
      (ofSteps result steps).play (.direct ⟨limit, accepted⟩) journal =
        (.direct ⟨limit, cut limit (accepted ++ Step.written steps)⟩, Step.told made journal,
          .error .sinkFull) := by
  induction steps generalizing accepted journal with
  | nil =>
      rw [Step.written, List.flatMap_nil, List.append_nil] at h
      exact absurd haccepted h
  | cons step rest ih =>
      rw [append_written_cons] at h ⊢
      by_cases hfits : Holds limit (accepted ++ step.bytes)
      · -- This step is made, and a later one is refused.
        obtain ⟨made, left, rfl, hplay⟩ := ih hfits h (Step.told [step] journal)
        refine ⟨step :: made, left, rfl, ?_⟩
        rw [ofSteps, play_bind, play_step_of_holds hfits, Step.told_cons step made]
        exact hplay
      · -- This step is refused, and what lies behind it lies behind the limit.
        refine ⟨[], step :: rest, rfl, ?_⟩
        rw [ofSteps, play_bind, play_step_of_not_holds haccepted hfits,
          cut_append_of_not_holds hfits]
        rfl

/-! ## Scripts that are cut -/

/-- A limit cuts a script, and does nothing else.  A script that fits is played as without
limit.  One that does not fit leaves the first bytes, as many as the limit allows, and
fails because the sink is full; the journal is told what it would be told before the cut,
and no more. -/
def IsCutAtLimit (s : Script α) : Prop :=
  ∀ (journal : Journal) (limit : Nat),
    let whole := s.play (.empty none) journal
    let part := s.play (.empty (some limit)) journal
    (whole.1.accepted.length ≤ limit →
      part.1.accepted = whole.1.accepted ∧ part.2 = whole.2) ∧
    (limit < whole.1.accepted.length →
      part.1.accepted = whole.1.accepted.take limit ∧ part.2.2 = .error .sinkFull ∧
        ∃ told later : List Entry, part.2.1 = told.foldl Journal.take journal ∧
          whole.2.1 = (told ++ later).foldl Journal.take journal)

/-- A script that passes on refusals is cut. -/
theorem Propagates.isCutAtLimit {s : Script α} (h : s.Propagates) : s.IsCutAtLimit := by
  intro journal limit whole part
  obtain ⟨steps, result, hplay⟩ := h journal
  have hwhole : whole = (.direct ⟨none, Step.written steps⟩, Step.told steps journal, result) :=
    (hplay _).trans (play_ofSteps_of_holds result steps (holds_none _) journal)
  rw [hwhole]
  constructor
  · intro hfits
    have hpart : part = (.direct ⟨some limit, Step.written steps⟩, Step.told steps journal,
        result) :=
      (hplay _).trans (play_ofSteps_of_holds result steps (holds_some_iff.mpr hfits) journal)
    rw [hpart]
    exact ⟨rfl, rfl⟩
  · intro hover
    have hnot : ¬ Holds (some limit) (Step.written steps) :=
      fun hholds => Nat.not_lt.mpr (holds_some_iff.mp hholds) hover
    obtain ⟨made, left, rfl, hmade⟩ :=
      play_ofSteps_of_not_holds result steps (holds_nil (some limit)) hnot journal
    have hpart : part = _ := (hplay _).trans hmade
    rw [hpart]
    refine ⟨rfl, rfl, made.filterMap Step.entry?, left.filterMap Step.entry?, rfl, ?_⟩
    rw [List.foldl_append]
    exact Step.told_append made left journal

/-- Without a limit nothing is refused. -/
theorem Propagates.exists_play_direct {s : Script α} (h : s.Propagates) (journal : Journal) :
    ∃ (bytes : Bytes) (told : List Entry) (result : Except Failure α),
      s.play (.empty none) journal =
        (.direct ⟨none, bytes⟩, told.foldl Journal.take journal, result) := by
  obtain ⟨steps, result, hplay⟩ := h journal
  exact ⟨_, steps.filterMap Step.entry?, _,
    (hplay _).trans (play_ofSteps_of_holds result steps (holds_none _) journal)⟩

/-- A script that does not pass a refusal on is not cut: it can succeed on a full sink. -/
example :
    (tryCatch (write [0, 1]) fun _ => pure ()).play (.empty (some 1)) .disabled =
      (.direct ⟨some 1, [0]⟩, .disabled, .ok ()) := rfl

end Script

/-! ## What writes -/

open Script

/-- A header stops at the first line that is refused. -/
theorem OutputFormat.propagates_writeHeader (format : OutputFormat) :
    format.writeHeader.Propagates :=
  propagates_forM propagates_writeLine format.header

/-- Records stop at the first line that is refused. -/
theorem OutputFormat.propagates_writeRecords (format : OutputFormat)
    (records : List NamingRecord) : (format.writeRecords records).Propagates :=
  propagates_forM (fun r => propagates_writeLine (format.render r)) records

/-- A walk fails with its document, or stops with the records of the document. -/
theorem Document.propagates_walk (disk : Disk) (naming : Naming) (format : OutputFormat)
    (path : Path) : (walk disk naming format path).Propagates := by
  refine (propagates_ofExcept _).bind fun document => ?_
  exact (format.propagates_writeRecords document.records).bind fun _ => propagates_pure _

namespace Run

/-- A document that cannot be read is passed over or ends the run.  One that can be read but
not written ends it, whether the run keeps going or not. -/
theorem propagates_documentScript (settings : RunSettings) (path : Path)
    (outcome : Except Failure Document) : (documentScript settings path outcome).Propagates := by
  obtain ⟨root, format, keepGoing⟩ := settings
  cases outcome with
  | ok document =>
      -- Writing comes before the message, so that a refusal is not told as a document.
      refine (format.propagates_writeRecords document.records).bind fun _ => ?_
      exact (propagates_tell _).bind fun _ => propagates_pure _
  | error failure =>
      -- Keeping going asks for a failure of reading; no refusal of the sink comes here.
      cases keepGoing with
      | true => exact (propagates_tell _).bind fun _ => propagates_pure _
      | false => exact propagates_ofExcept _

/-- The loop over the documents ends with the first one that ends it. -/
theorem propagates_handle (settings : RunSettings) (counts : RunSummary)
    (readings : List (Path × Except Failure Document)) :
    (handle settings counts readings).Propagates := by
  induction readings generalizing counts with
  | nil => exact propagates_pure counts
  | cons reading rest ih =>
      exact (propagates_documentScript settings reading.1 reading.2).bind fun own =>
        ih (counts + own)

theorem propagates_script (disk : Disk) (naming : Naming) (settings : RunSettings) :
    (script disk naming settings).Propagates := by
  refine (settings.format.propagates_writeHeader).bind fun _ => ?_
  refine (propagates_ofExcept _).bind fun pages => ?_
  refine (propagates_tell _).bind fun _ => ?_
  refine (propagates_now disk).bind fun seen => ?_
  refine (propagates_handle settings _ _).bind fun summary => ?_
  exact propagates_flush.bind fun _ => propagates_pure summary

end Run

/-- Everything that writes is cut at the limit of its sink: a header and the records behind
it, a walk, and a run, whether it keeps going over documents or not.  So neither a failure
that would come later nor a success hides that the sink was full, and a run does not pass
over a full sink. -/
theorem limit_cuts_output :
    (∀ (format : OutputFormat) (records : List NamingRecord),
      Script.IsCutAtLimit (do
        format.writeHeader
        format.writeRecords records)) ∧
    (∀ (disk : Disk) (naming : Naming) (format : OutputFormat) (path : Path),
      (Document.walk disk naming format path).IsCutAtLimit) ∧
    (∀ (disk : Disk) (naming : Naming) (settings : RunSettings),
      (Run.script disk naming settings).IsCutAtLimit) ∧
    Failure.sinkFull.message = "sink full".toList := by
  refine ⟨fun format records => ?_, fun disk naming format path => ?_,
    fun disk naming settings => ?_, rfl⟩
  · have hboth := format.propagates_writeHeader.bind fun _ =>
      format.propagates_writeRecords records
    exact hboth.isCutAtLimit
  · exact (Document.propagates_walk disk naming format path).isCutAtLimit
  · exact (Run.propagates_script disk naming settings).isCutAtLimit

end JavadocNames
