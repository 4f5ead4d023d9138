import JavadocNames.Program
import JavadocNames.Proofs.Disk.Frame
import JavadocNames.Proofs.Text.Utf8

/-!
# Opening the journal

Before a run looks at anything, its journal is opened, and a log file may be made, with the
directories above it.  Nothing else changes on the disk.  The name of a log file is never that
of a page.
-/

namespace JavadocNames

variable {disk : Disk} {started : Moment}

namespace Journal

variable {tool : Text}

/-- The path of the log file of a run. -/
def path (tool : Text) (started : Moment) : Path :=
  (directory tool started).join (Path.ofText (fileName started))

/-- The name of a log file ends in `g`, however the moment is spelled. -/
theorem exists_getLast?_pieces_path (tool : Text) (started : Moment) :
    ∃ stem, (path tool started).pieces.getLast? = some (stem ++ [0x67]) := by
  have hname : ∃ front, (Path.ofText (fileName started)).bytes = front ++ [0x67] := by
    have hend : Utf8.encode ".log".toList = [0x2E, 0x6C, 0x6F] ++ [0x67] := by decide
    exact ⟨_, by rw [fileName, Path.ofText, Utf8.encode_append, hend, ← List.append_assoc]⟩
  obtain ⟨front, hfront⟩ := hname
  have hpath : ∃ front, (path tool started).bytes = front ++ [0x67] := by
    rw [path, Path.join]
    split
    · exact ⟨front, hfront⟩
    · split
      · exact ⟨_, by rw [hfront, ← List.append_assoc]⟩
      · exact ⟨(directory tool started).bytes ++ Path.slash :: front, by simp [hfront]⟩
  obtain ⟨front, hfront⟩ := hpath
  exact Path.exists_getLast?_pieces hfront (by decide)

/-- The disk when the directories of the log file have been made, as far as they can be. -/
def prepared (disk : Disk) (tool : Text) (started : Moment) : Disk :=
  (disk.createDirectories (directory tool started)).1

theorem createLogFile_cases (disk : Disk) (tool : Text) (started : Moment) :
    (∃ e, createLogFile disk tool started = (prepared disk tool started, .error e)) ∨
      ∃ place made,
        (prepared disk tool started).createFile (path tool started) = .ok (place, made) ∧
        createLogFile disk tool started = (made, .ok ⟨path tool started, place, []⟩) := by
  rw [createLogFile, prepared, path]
  rcases disk.createDirectories (directory tool started) with ⟨made, e | ⟨⟨⟩⟩⟩
  · exact .inl ⟨e, rfl⟩
  · dsimp only
    cases hfile : made.createFile
        ((directory tool started).join (Path.ofText (fileName started))) with
    | error e => exact .inl ⟨e, rfl⟩
    | ok file => exact .inr ⟨file.1, file.2, rfl, rfl⟩

theorem prepared_grows (tool : Text) (started : Moment) (htree : disk.IsTree)
    {fits : Place → DiskNode → Prop} (hfits : ∀ q, fits q (.directory [])) :
    disk.Grows fits (prepared disk tool started) :=
  Disk.createDirectories_grows htree hfits _

/-- A log file that is made is empty, and the disk stays a file tree with the directories that
it had. -/
theorem createLogFile_spec (tool : Text) (started : Moment) (htree : disk.IsTree) :
    (createLogFile disk tool started).1.IsTree ∧
      (∀ path start, disk.LeadsTo path start →
        (createLogFile disk tool started).1.LeadsTo path start) ∧
      ∀ file, (createLogFile disk tool started).2 = .ok file →
        (createLogFile disk tool started).1.at? file.place = some (.file []) := by
  have hprepared : disk.Grows (fun _ _ => True) (prepared disk tool started) :=
    prepared_grows tool started htree fun _ => trivial
  rcases createLogFile_cases disk tool started with ⟨e, heq⟩ | ⟨place, made, hmade, heq⟩
  · rw [heq]
    exact ⟨hprepared.isTree, fun _ _ => hprepared.leadsTo, fun _ h => nomatch h⟩
  · obtain ⟨hputs, hold, -, -⟩ := Disk.createFile_spec hprepared.isTree hmade
    rw [heq]
    refine ⟨hputs.isTree, fun path start hleads =>
      (hputs.leadsTo_iff hold).mpr (hprepared.leadsTo hleads), fun file hfile => ?_⟩
    obtain rfl := Except.ok.inj hfile
    exact Disk.faceAt?_eq_some_file_iff.mp hputs.faceAt?_self

/-- Nothing goes away when a log file is made. -/
theorem at?_eq_none_of_createLogFile (htree : disk.IsTree) {q : Place}
    (hq : (createLogFile disk tool started).1.at? q = none) : disk.at? q = none := by
  have hprepared : disk.Grows (fun _ _ => True) (prepared disk tool started) :=
    prepared_grows tool started htree fun _ => trivial
  rcases createLogFile_cases disk tool started with ⟨e, heq⟩ | ⟨place, made, hmade, heq⟩
  · rw [heq] at hq
    exact hprepared.at?_eq_none hq
  · obtain ⟨hputs, -, -, -⟩ := Disk.createFile_spec hprepared.isTree hmade
    have hnone : made.at? q = none := by rwa [heq] at hq
    have hplace : q ≠ place := by
      rintro rfl
      rw [Disk.faceAt?_eq_some_file_iff.mp hputs.faceAt?_self] at hnone
      contradiction
    exact hprepared.at?_eq_none ((hputs.at?_eq_none_iff hplace).mp hnone)

/-- Where the log file is new and no link leads to it, only directories are new otherwise, and
the log file is not a page. -/
theorem createLogFile_grows (htree : disk.IsTree)
    (hnew : ∀ file, (createLogFile disk tool started).2 = .ok file → disk.at? file.place = none)
    (hlinks : ∀ place name target, disk.at? (place ++ [name]) = some (.link target) →
      ∀ q ∈ (createLogFile disk tool started).1.wayFrom true Disk.linkLimit place [name],
        disk.at? q = none → (createLogFile disk tool started).1.at? q = none) :
    disk.Grows Disk.IsNoPage (createLogFile disk tool started).1 := by
  have hprepared : disk.Grows (fun _ face => face = .directory []) (prepared disk tool started) :=
    prepared_grows tool started htree fun _ => rfl
  rcases createLogFile_cases disk tool started with ⟨e, heq⟩ | ⟨place, made, hmade, heq⟩
  · rw [heq]
    exact hprepared.weaken fun _ _ => .inl
  · rw [heq] at hnew hlinks ⊢
    have hplace : disk.at? place = none := hnew _ rfl
    obtain ⟨hputs, hpassage, -, -⟩ := Disk.createFile_spec hprepared.isTree hmade
    -- Only directories are new before the log file is made.
    have hfree : (prepared disk tool started).at? place = none := by
      rw [← Disk.faceAt?_eq_none_iff, Option.eq_none_iff_forall_ne_some]
      intro face hface
      obtain ⟨content, rfl⟩ := Disk.eq_file_of_passage?_eq_none hpassage hface
      rcases hprepared.old_or_new _ _ hface with hold | ⟨-, hdirectory⟩
      · rw [← Disk.faceAt?_eq_none_iff] at hplace
        rw [hplace] at hold
        contradiction
      · contradiction
    have hname := Disk.getLast?_eq_of_createFile hprepared.isTree hmade hfree
      fun directory name target hlink hmem => by
        have hold : disk.at? (directory ++ [name]) = some (.link target) := by
          rw [← Disk.faceAt?_eq_some_link_iff] at hlink ⊢
          rcases hprepared.old_or_new _ _ hlink with hold | ⟨-, hdirectory⟩
          · exact hold
          · contradiction
        rw [← hputs.wayFrom_eq hpassage] at hmem
        have hat := hlinks directory name target hold place hmem hplace
        rw [Disk.faceAt?_eq_some_file_iff.mp hputs.faceAt?_self] at hat
        contradiction
    refine (hprepared.weaken fun _ _ => .inl).trans (hputs.grows hfree (.inr ⟨⟨[], rfl⟩, ?_⟩))
    intro stem hstem
    obtain ⟨stem', hlast⟩ := exists_getLast?_pieces_path tool started
    rw [hname, hstem] at hlast
    have hpage : Disk.pageEnding.getLast? = some 0x6C := by decide
    have hend := congrArg List.getLast? (Option.some.inj hlast)
    rw [List.getLast?_append, List.getLast?_concat, hpage, Option.some_or] at hend
    exact absurd (Option.some.inj hend) (by decide)

/-! ## Messages -/

/-- Where the log file is. -/
def place? (journal : Journal) : Option Place :=
  journal.file.map (·.place)

@[simp] theorem place?_note (journal : Journal) (message : Text) :
    (journal.note message).place? = journal.place? := by
  rw [place?, place?, note, Option.map_map]
  rfl

@[simp] theorem place?_log (journal : Journal) (message : Text) :
    (journal.log message).place? = journal.place? := by
  rw [log, place?_note]
  split <;> rfl

@[simp] theorem place?_take (journal : Journal) (entry : Entry) :
    (journal.take entry).place? = journal.place? := by
  cases entry with
  | log message => exact place?_log journal message
  | warn message => exact place?_note _ _
  | note message => exact place?_note journal message

/-- The log file stays where it is. -/
theorem place?_foldl {α : Type} {take : Journal → α → Journal}
    (htake : ∀ journal a, (take journal a).place? = journal.place?) (entries : List α)
    (journal : Journal) : (entries.foldl take journal).place? = journal.place? := by
  induction entries generalizing journal with
  | nil => rfl
  | cons entry rest ih => rw [List.foldl_cons, ih, htake]

end Journal

namespace Tool

variable {tool : Tool}

theorem place?_close (clock : Clock) (journal : Journal) (result : Except Failure Text) :
    (tool.close clock journal result).place? = journal.place? := by
  cases result with
  | error failure => rfl
  | ok summary =>
      simp only [close]
      split
      · rw [Journal.finish]
        split
        · rw [Journal.place?_foldl Journal.place?_note, Journal.place?_log, Journal.place?_log]
        · rw [Journal.place?_log, Journal.place?_foldl Journal.place?_note, Journal.place?_log,
            Journal.place?_log]
      · rw [Journal.place?_log, Journal.place?_log]

/-- A tool without a log file leaves the disk as it is; with one it makes the log file. -/
theorem openJournal_cases (tool : Tool) (disk : Disk) (started : Moment) :
    ((tool.openJournal disk started).2 = disk ∧ (tool.openJournal disk started).1.place? = none) ∨
      (tool.openJournal disk started).2 = (Journal.createLogFile disk tool.name started).1 ∧
        (tool.openJournal disk started).1.place? =
          (Journal.createLogFile disk tool.name started).2.toOption.map (·.place) := by
  rw [openJournal]
  cases tool.logging with
  | false => exact .inl ⟨rfl, Journal.place?_log _ _⟩
  | true =>
      rw [if_pos rfl, Journal.openFile]
      rcases Journal.createLogFile disk tool.name started with ⟨made, e | file⟩
      · exact .inr ⟨rfl, Journal.place?_log _ _⟩
      · exact .inr ⟨rfl, Journal.place?_log _ _⟩

/-- The log file is made empty, and the disk stays a file tree with the directories that it
had. -/
theorem openJournal_spec (tool : Tool) (started : Moment) (htree : disk.IsTree) :
    (tool.openJournal disk started).2.IsTree ∧
      (∀ path start, disk.LeadsTo path start →
        (tool.openJournal disk started).2.LeadsTo path start) ∧
      ∀ place, (tool.openJournal disk started).1.place? = some place →
        (tool.openJournal disk started).2.at? place = some (.file []) := by
  obtain ⟨hmade, hleads, hfile⟩ := Journal.createLogFile_spec tool.name started htree
  rcases tool.openJournal_cases disk started with ⟨hdisk, hplace⟩ | ⟨hdisk, hplace⟩
  · rw [hdisk, hplace]
    exact ⟨htree, fun _ _ h => h, fun _ h => nomatch h⟩
  · rw [hdisk, hplace]
    refine ⟨hmade, hleads, fun place h => ?_⟩
    cases hresult : (Journal.createLogFile disk tool.name started).2 with
    | error e =>
        rw [hresult] at h
        contradiction
    | ok file =>
        rw [hresult] at h
        obtain rfl := Option.some.inj h
        exact hfile file hresult

theorem at?_eq_none_of_openJournal (tool : Tool) (started : Moment) (htree : disk.IsTree)
    {q : Place} (hq : (tool.openJournal disk started).2.at? q = none) : disk.at? q = none := by
  rcases tool.openJournal_cases disk started with ⟨hdisk, -⟩ | ⟨hdisk, -⟩
  · rwa [hdisk] at hq
  · rw [hdisk] at hq
    exact Journal.at?_eq_none_of_createLogFile htree hq

/-- Where the log file is new and no link leads to what is new, nothing new is a page. -/
theorem openJournal_grows (tool : Tool) (started : Moment) (htree : disk.IsTree)
    (hnew : ∀ place, (tool.openJournal disk started).1.place? = some place → disk.at? place = none)
    (hlinks : ∀ place name target, disk.at? (place ++ [name]) = some (.link target) →
      ∀ q ∈ (tool.openJournal disk started).2.wayFrom true Disk.linkLimit place [name],
        disk.at? q = none → (tool.openJournal disk started).2.at? q = none) :
    disk.Grows Disk.IsNoPage (tool.openJournal disk started).2 := by
  rcases tool.openJournal_cases disk started with ⟨hdisk, -⟩ | ⟨hdisk, hplace⟩
  · rw [hdisk]
    exact .refl htree
  · rw [hdisk] at hlinks ⊢
    refine Journal.createLogFile_grows htree (fun file hfile => hnew _ ?_) hlinks
    rw [hplace, hfile]
    rfl

end Tool

end JavadocNames
