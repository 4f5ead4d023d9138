import JavadocNames.Proofs.Run.Playing
import JavadocNames.Proofs.Run.Sinks
import JavadocNames.Proofs.Text.Lines
import JavadocNames.Record.Format

/-!
# Writing lines

Lines are written one by one, so a direct sink takes them in order as far as it has room.
The first line that does not fit is the last one that is tried, and nothing is told.
-/

namespace JavadocNames

open Sink

namespace Script

variable {limit : Option Nat} {accepted : Bytes}

theorem append_lineBytes_cons (accepted : Bytes) (text : Text) (rest : List Text) :
    accepted ++ Text.lineBytes (text :: rest) =
      accepted ++ Utf8.encode (Text.line text) ++ Text.lineBytes rest :=
  (List.append_assoc ..).symm

/-- Lines for which there is room are all written. -/
theorem play_forM_writeLine_of_holds (lines : List Text)
    (h : Holds limit (accepted ++ Text.lineBytes lines)) (journal : Journal) :
    (lines.forM writeLine).play (.direct ⟨limit, accepted⟩) journal =
      (.direct ⟨limit, accepted ++ Text.lineBytes lines⟩, journal, .ok ()) := by
  induction lines generalizing accepted with
  | nil =>
      rw [Text.lineBytes, List.flatMap_nil, List.append_nil]
      rfl
  | cons text rest ih =>
      rw [append_lineBytes_cons] at h ⊢
      have hwrite := write_direct_of_holds h.of_append
      rw [List.forM, play_bind, writeLine, play_write, hwrite]
      exact ih h

/-- Of lines that do not fit, the first bytes are taken. -/
theorem play_forM_writeLine_of_not_holds (lines : List Text) (haccepted : Holds limit accepted)
    (h : ¬ Holds limit (accepted ++ Text.lineBytes lines)) (journal : Journal) :
    (lines.forM writeLine).play (.direct ⟨limit, accepted⟩) journal =
      (.direct ⟨limit, cut limit (accepted ++ Text.lineBytes lines)⟩, journal,
        .error .sinkFull) := by
  induction lines generalizing accepted with
  | nil =>
      rw [Text.lineBytes, List.flatMap_nil, List.append_nil] at h
      exact absurd haccepted h
  | cons text rest ih =>
      rw [append_lineBytes_cons] at h ⊢
      rw [List.forM, play_bind, writeLine, play_write]
      by_cases hfits : Holds limit (accepted ++ Utf8.encode (Text.line text))
      · rw [write_direct_of_holds hfits]
        exact ih hfits h
      · -- This line is cut, and what lies behind it lies behind the limit.
        rw [write_direct_of_not_holds haccepted hfits, cut_append_of_not_holds hfits]

end Script

namespace OutputFormat

variable {limit : Option Nat} {accepted : Bytes}

/-- A header for which there is room is written whole. -/
theorem play_writeHeader_of_holds {format : OutputFormat}
    (h : Holds limit (Text.lineBytes format.header)) (journal : Journal) :
    format.writeHeader.play (.empty limit) journal =
      (.direct ⟨limit, Text.lineBytes format.header⟩, journal, .ok ()) := by
  have hnone : ([] : Bytes) ++ Text.lineBytes format.header = Text.lineBytes format.header :=
    List.nil_append _
  rw [← hnone] at h ⊢
  exact Script.play_forM_writeLine_of_holds format.header h journal

theorem play_writeHeader_of_not_holds {format : OutputFormat}
    (h : ¬ Holds limit (Text.lineBytes format.header)) (journal : Journal) :
    format.writeHeader.play (.empty limit) journal =
      (.direct ⟨limit, cut limit (Text.lineBytes format.header)⟩, journal, .error .sinkFull) := by
  have hnone : ([] : Bytes) ++ Text.lineBytes format.header = Text.lineBytes format.header :=
    List.nil_append _
  rw [← hnone] at h ⊢
  exact Script.play_forM_writeLine_of_not_holds format.header (holds_nil limit) h journal

/-- Records are written as the lines that render them. -/
theorem writeRecords_eq (format : OutputFormat) (records : List NamingRecord) :
    format.writeRecords records = (records.map format.render).forM Script.writeLine := by
  induction records with
  | nil => rfl
  | cons r rest ih => exact congrArg (fun s => Script.writeLine _ >>= fun _ => s) ih

variable {format : OutputFormat} {records : List NamingRecord}

theorem play_writeRecords_of_holds
    (h : Holds limit (accepted ++ Text.lineBytes (records.map format.render)))
    (journal : Journal) :
    (format.writeRecords records).play (.direct ⟨limit, accepted⟩) journal =
      (.direct ⟨limit, accepted ++ Text.lineBytes (records.map format.render)⟩, journal,
        .ok ()) := by
  rw [writeRecords_eq]
  exact Script.play_forM_writeLine_of_holds _ h journal

theorem play_writeRecords_of_not_holds (haccepted : Holds limit accepted)
    (h : ¬ Holds limit (accepted ++ Text.lineBytes (records.map format.render)))
    (journal : Journal) :
    (format.writeRecords records).play (.direct ⟨limit, accepted⟩) journal =
      (.direct ⟨limit, cut limit (accepted ++ Text.lineBytes (records.map format.render))⟩,
        journal, .error .sinkFull) := by
  rw [writeRecords_eq]
  exact Script.play_forM_writeLine_of_not_holds _ haccepted h journal

theorem outcome_writeRecords (format : OutputFormat) (records : List NamingRecord)
    (journal : Journal) :
    (format.writeRecords records).outcome journal =
      (Text.lineBytes (records.map format.render), .ok ()) := by
  rw [Script.outcome, empty, play_writeRecords_of_holds (holds_none _)]
  rfl

end OutputFormat

end JavadocNames
