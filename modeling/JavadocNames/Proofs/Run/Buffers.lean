import JavadocNames.Proofs.Run.Limits
import JavadocNames.Program

/-!
# Buffers

Standard output and the output file are written through a buffer.  Bytes wait in it until it
is full, until it is flushed, or until it is given up, which happens also when a run fails.
So in the end the device has the bytes that it has without a buffer.  A refusal may come later
than without one, or not at all when the buffer is only given up; but a run that succeeds has
flushed its buffer, and then the device has everything.
-/

namespace JavadocNames

open Sink

/-- The bytes that wait in front of the device. -/
def Sink.waiting : Sink → Bytes
  | direct _ => []
  | buffered _ waiting _ => waiting

namespace Script

variable {α β : Type} {limit : Option Nat} {size : Nat} {waiting accepted : Bytes}

/-! ## The bytes behind a buffer -/

theorem passes_step (size : Nat) (waiting : Bytes) (step : Step)
    (haccepted : Holds limit accepted) (journal : Journal) :
    ∃ answer, Passes limit size (accepted ++ waiting ++ step.bytes) answer ∧
      step.script.play (.buffered size waiting ⟨limit, accepted⟩) journal =
        (answer.1, Step.told [step] journal, answer.2) := by
  cases step with
  | write bytes => exact ⟨_, passes_write haccepted bytes, rfl⟩
  | flush =>
      rw [Step.bytes, List.append_nil]
      exact ⟨_, passes_flush haccepted, rfl⟩
  | tell entry =>
      rw [Step.bytes, List.append_nil]
      exact ⟨_, .on rfl haccepted, rfl⟩

/-- As long as nothing is refused, what the device has and what waits are together the bytes
of the steps so far. -/
theorem play_ofSteps_buffered (result : Except Failure α) (steps : List Step) (size : Nat)
    (waiting : Bytes) (haccepted : Holds limit accepted) (journal : Journal) :
    let whole := accepted ++ waiting ++ Step.written steps
    let part := (ofSteps result steps).play (.buffered size waiting ⟨limit, accepted⟩) journal
    (∃ waiting' accepted', accepted' ++ waiting' = whole ∧ Holds limit accepted' ∧
      part = (.buffered size waiting' ⟨limit, accepted'⟩, Step.told steps journal, result)) ∨
    (¬ Holds limit whole ∧ part.1.close.accepted = cut limit whole ∧
      part.2.2 = .error .sinkFull) := by
  induction steps generalizing waiting accepted journal with
  | nil => exact .inl ⟨waiting, accepted, (List.append_nil _).symm, haccepted, rfl⟩
  | cons step rest ih =>
      obtain ⟨answer, hpasses, hstep⟩ := passes_step size waiting step haccepted journal
      rw [append_written_cons, ofSteps, play_bind, hstep]
      cases hpasses with
      | @on waiting' accepted' hbytes haccepted' =>
          -- The bytes of the step may wait or not; the sum is what the next step builds on.
          rw [← hbytes, Step.told_cons step rest]
          exact ih waiting' haccepted' (Step.told [step] journal)
      | refused hnot hclose =>
          -- The device is full, and what lies behind makes no difference.
          refine .inr ⟨fun h => hnot h.of_append, ?_, rfl⟩
          rw [cut_append_of_not_holds hnot]
          exact hclose

/-- Behind a buffer that is given up in the end, a device gets what it gets without one, and
where it has room for everything, neither the journal nor the result shows the buffer. -/
theorem Propagates.play_buffered {s : Script α} (h : s.Propagates) (limit : Option Nat)
    (size : Nat) (journal : Journal) :
    let whole := s.play (.empty none) journal
    let part := s.play (.buffered size [] ⟨limit, []⟩) journal
    part.1.close.accepted = cut limit whole.1.accepted ∧
      (Holds limit whole.1.accepted → part.2 = whole.2) ∧
      ∀ a, part.2.2 = .ok a → whole.2.2 = .ok a ∧
        (part.1.waiting = [] → Holds limit whole.1.accepted) := by
  intro whole part
  obtain ⟨steps, result, hplay⟩ := h journal
  have hwhole : whole = (.direct ⟨none, Step.written steps⟩, Step.told steps journal, result) :=
    (hplay _).trans (play_ofSteps_of_holds result steps (holds_none _) journal)
  have hpart : part = _ := hplay (.buffered size [] ⟨limit, []⟩)
  rw [hwhole, hpart]
  rcases play_ofSteps_buffered result steps size [] (holds_nil limit) journal with
    ⟨waiting, accepted, hbytes, haccepted, hend⟩ | ⟨hnot, hclose, hfull⟩
  · have hwritten : accepted ++ waiting = Step.written steps := hbytes
    rw [hend]
    refine ⟨?_, fun _ => rfl, fun a ha => ⟨ha, fun hnone => ?_⟩⟩
    · rw [accepted_close_buffered haccepted, hwritten]
      rfl
    · have hnone' : waiting = [] := hnone
      rw [hnone', List.append_nil] at hwritten
      rw [hwritten] at haccepted
      exact haccepted
  · refine ⟨hclose, fun hholds => absurd hholds hnot, fun a ha => ?_⟩
    rw [hfull] at ha
    contradiction

/-! ## Flushing -/

/-- A script that leaves nothing in a buffer when it succeeds. -/
def Flushes (s : Script α) : Prop :=
  ∀ sink journal a, (s.play sink journal).2.2 = .ok a → (s.play sink journal).1.waiting = []

/-- A result behind a flush does not fill the buffer again. -/
theorem flushes_flush (a : α) : Flushes (do flush; return a) := by
  intro sink journal a h
  rw [play_bind, play_flush] at h ⊢
  cases sink with
  | direct device => rfl
  | buffered size waiting device =>
      rcases htake : device.take waiting with ⟨device', left⟩
      simp only [Sink.flush, htake, answer] at h ⊢
      by_cases hleft : left = []
      · rw [if_pos hleft]
        exact hleft
      · rw [if_neg hleft] at h
        contradiction

theorem Flushes.bind (s : Script α) {f : α → Script β} (hf : ∀ a, (f a).Flushes) :
    (s >>= f).Flushes := by
  intro sink journal b h
  rw [play_bind] at h ⊢
  cases hs : s.play sink journal with
  | mk sink' rest =>
      obtain ⟨journal', failure | a⟩ := rest
      · rw [hs] at h
        contradiction
      · rw [hs] at h
        exact hf a sink' journal' b h

end Script

namespace Run

theorem flushes_script (disk : Disk) (naming : Naming) (settings : RunSettings) :
    (script disk naming settings).Flushes := by
  refine .bind _ fun _ => .bind _ fun pages => .bind _ fun _ => .bind _ fun seen => ?_
  exact .bind _ fun summary => Script.flushes_flush summary

/-- A run that is written through a buffer does not succeed unless the device has room for
everything: what the buffer has kept is refused by the flush at the end. -/
theorem holds_of_play_script_buffered (disk : Disk) (naming : Naming) (settings : RunSettings)
    (limit : Option Nat) (size : Nat) (journal : Journal) (summary : RunSummary) :
    let whole := (script disk naming settings).play (.empty none) journal
    let part := (script disk naming settings).play (.buffered size [] ⟨limit, []⟩) journal
    part.2.2 = .ok summary → whole.2.2 = .ok summary ∧ Holds limit whole.1.accepted := by
  intro whole part hok
  obtain ⟨-, -, hpart⟩ := (propagates_script disk naming settings).play_buffered limit size journal
  obtain ⟨hresult, hholds⟩ := hpart summary hok
  exact ⟨hresult, hholds (flushes_script disk naming settings _ _ summary hok)⟩

end Run

namespace Program

open CommandLine Script

theorem propagates_scriptOf (arguments : Arguments) (disk : Disk) :
    (scriptOf arguments disk).Propagates := by
  refine (Run.propagates_script disk _ _).bind fun summary => ?_
  cases arguments.output with
  | none => exact propagates_pure _
  | some path => exact propagates_flush.bind fun _ => propagates_pure _

/-- The header waits in the buffer when the documents are read, so that the output file is
empty then. -/
example : (OutputFormat.attr.writeHeader.play (.buffered bufferSize [] ⟨none, []⟩)
    .disabled).1.accepted = [] := by
  decide +kernel

end Program

end JavadocNames
