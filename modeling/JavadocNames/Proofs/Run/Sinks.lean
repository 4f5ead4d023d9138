import JavadocNames.Sink

/-!
# What sinks take

A device with a limit takes the first bytes, as many as the limit allows, and a direct sink
tells when some were left over.  Behind a buffer the device gets the same bytes, only later:
what it has and what waits are together the bytes that were written, until some are refused,
and from then on the device is full.
-/

namespace JavadocNames

namespace Sink

/-- A device with a limit has room for all of some bytes. -/
def Holds (limit : Option Nat) (bytes : Bytes) : Prop :=
  ∀ n ∈ limit, bytes.length ≤ n

/-- The first bytes, as many as a device with a limit takes. -/
def cut (limit : Option Nat) (bytes : Bytes) : Bytes :=
  limit.elim bytes bytes.take

variable {limit : Option Nat} {accepted bytes : Bytes}

theorem holds_none (bytes : Bytes) : Holds none bytes :=
  nofun

theorem holds_nil (limit : Option Nat) : Holds limit [] :=
  fun n _ => Nat.zero_le n

theorem holds_some_iff {n : Nat} : Holds (some n) bytes ↔ bytes.length ≤ n := by
  simp [Holds]

theorem Holds.of_append {more : Bytes} (h : Holds limit (bytes ++ more)) : Holds limit bytes := by
  intro n hn
  have hlength := h n hn
  rw [List.length_append] at hlength
  omega

theorem cut_of_holds (h : Holds limit bytes) : cut limit bytes = bytes := by
  cases limit with
  | none => rfl
  | some n => exact List.take_of_length_le (holds_some_iff.mp h)

/-- What lies behind the limit makes no difference to what is taken. -/
theorem cut_append_of_not_holds (h : ¬ Holds limit bytes) (more : Bytes) :
    cut limit (bytes ++ more) = cut limit bytes := by
  cases limit with
  | none => exact absurd (holds_none _) h
  | some n =>
      rw [holds_some_iff] at h
      exact List.take_append_of_le_length (by omega)

/-- A device that is full takes nothing. -/
theorem cut_cut_append (h : ¬ Holds limit bytes) (more : Bytes) :
    cut limit (cut limit bytes ++ more) = cut limit bytes := by
  cases limit with
  | none => exact absurd (holds_none _) h
  | some n =>
      rw [holds_some_iff] at h
      have hfull : (bytes.take n).length = n := List.length_take_of_le (by omega)
      exact List.take_left' hfull

/-! ## Devices -/

theorem take_of_holds (h : Holds limit (accepted ++ bytes)) :
    (Device.mk limit accepted).take bytes = (⟨limit, accepted ++ bytes⟩, []) := by
  cases limit with
  | none => rfl
  | some n =>
      have hroom : bytes.length ≤ n - accepted.length := by
        rw [holds_some_iff, List.length_append] at h
        omega
      simp [Device.take, Device.room, List.take_of_length_le hroom,
        List.drop_of_length_le hroom]

/-- Of bytes for which there is not enough room, some are left over. -/
theorem exists_take_of_not_holds (haccepted : Holds limit accepted)
    (h : ¬ Holds limit (accepted ++ bytes)) :
    ∃ left, left ≠ [] ∧
      (Device.mk limit accepted).take bytes = (⟨limit, cut limit (accepted ++ bytes)⟩, left) := by
  cases limit with
  | none => exact absurd (holds_none _) h
  | some n =>
      rw [holds_some_iff] at haccepted h
      rw [List.length_append] at h
      refine ⟨bytes.drop (n - accepted.length), ?_, ?_⟩
      · rw [Ne, List.drop_eq_nil_iff]
        omega
      · simp [Device.take, Device.room, cut, List.take_append, List.take_of_length_le haccepted]

/-! ## Direct sinks -/

/-- Bytes for which there is room are taken. -/
theorem write_direct_of_holds (h : Holds limit (accepted ++ bytes)) :
    (direct ⟨limit, accepted⟩).write bytes = (direct ⟨limit, accepted ++ bytes⟩, .ok ()) := by
  rw [write, take_of_holds h]
  rfl

/-- Of bytes for which there is not enough room, the first ones are taken, and the others
are refused. -/
theorem write_direct_of_not_holds (haccepted : Holds limit accepted)
    (h : ¬ Holds limit (accepted ++ bytes)) :
    (direct ⟨limit, accepted⟩).write bytes =
      (direct ⟨limit, cut limit (accepted ++ bytes)⟩, .error .sinkFull) := by
  obtain ⟨left, hleft, htake⟩ := exists_take_of_not_holds haccepted h
  simp only [write, htake, answer, if_neg hleft]

/-! ## Buffers -/

variable {size : Nat} {waiting : Bytes}

/-- What a buffer does with bytes: they wait or go on to the device, behind those before, or
they are more than the device has room for, and then it is full in the end. -/
inductive Passes (limit : Option Nat) (size : Nat) (bytes : Bytes) :
    Sink × Except Failure Unit → Prop where
  | on {waiting accepted : Bytes} : accepted ++ waiting = bytes → Holds limit accepted →
      Passes limit size bytes (buffered size waiting ⟨limit, accepted⟩, .ok ())
  | refused {sink : Sink} : ¬ Holds limit bytes → sink.close.accepted = cut limit bytes →
      Passes limit size bytes (sink, .error .sinkFull)

/-- A buffer that is given up leaves the first of all bytes. -/
theorem accepted_close_buffered (haccepted : Holds limit accepted) :
    (buffered size waiting ⟨limit, accepted⟩).close.accepted =
      cut limit (accepted ++ waiting) := by
  by_cases h : Holds limit (accepted ++ waiting)
  · rw [close, flush, take_of_holds h, cut_of_holds h]
    rfl
  · obtain ⟨left, -, htake⟩ := exists_take_of_not_holds haccepted h
    rw [close, flush, htake]
    rfl

theorem accepted_close_of_full (h : ¬ Holds limit bytes) (waiting : Bytes) :
    (buffered size waiting ⟨limit, cut limit bytes⟩).close.accepted = cut limit bytes := by
  have haccepted : Holds limit (cut limit bytes) := by
    cases limit with
    | none => exact holds_none _
    | some n => exact holds_some_iff.mpr (List.length_take_le n bytes)
  rw [accepted_close_buffered haccepted, cut_cut_append h]

theorem passes_flush (haccepted : Holds limit accepted) :
    Passes limit size (accepted ++ waiting) (buffered size waiting ⟨limit, accepted⟩).flush := by
  by_cases h : Holds limit (accepted ++ waiting)
  · rw [flush, take_of_holds h]
    exact .on (List.append_nil _) h
  · obtain ⟨left, hleft, htake⟩ := exists_take_of_not_holds haccepted h
    simp only [flush, htake, answer, if_neg hleft]
    exact .refused h (accepted_close_of_full h left)

theorem passes_write (haccepted : Holds limit accepted) (bytes : Bytes) :
    Passes limit size (accepted ++ waiting ++ bytes)
      ((buffered size waiting ⟨limit, accepted⟩).write bytes) := by
  by_cases hroom : waiting.length + bytes.length ≤ size ∧ bytes.length < size
  · rw [write, if_pos hroom]
    exact .on (List.append_assoc ..).symm haccepted
  rw [write, if_neg hroom]
  by_cases hwaiting : Holds limit (accepted ++ waiting)
  · rw [take_of_holds hwaiting]
    by_cases hsmall : bytes.length < size
    · -- What waited has made room.
      simp only [if_pos hsmall]
      exact .on rfl hwaiting
    · -- The bytes go past the buffer.
      simp only [if_neg hsmall]
      by_cases h : Holds limit (accepted ++ waiting ++ bytes)
      · rw [take_of_holds h]
        exact .on (List.append_nil _) h
      · obtain ⟨left, hleft, htake⟩ := exists_take_of_not_holds hwaiting h
        simp only [htake, answer, if_neg hleft]
        exact .refused h (accepted_close_of_full h [])
  · obtain ⟨left, hleft, htake⟩ := exists_take_of_not_holds haccepted hwaiting
    have h : ¬ Holds limit (accepted ++ waiting ++ bytes) := fun h => hwaiting h.of_append
    rw [htake]
    cases left with
    | nil => contradiction
    | cons b rest =>
        refine .refused h ?_
        rw [accepted_close_of_full hwaiting, cut_append_of_not_holds hwaiting]

end Sink

end JavadocNames
