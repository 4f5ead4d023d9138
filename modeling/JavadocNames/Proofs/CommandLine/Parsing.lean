import Mathlib.Data.List.Basic
import JavadocNames.Proofs.CommandLine.Spelling
import JavadocNames.Proofs.Disk.Entries

/-!
# Parsing a command line

Each choice is about one option or flag.  It is taken in when nothing has been chosen there
before, and it changes nothing else, so the order of the choices makes no difference.  A
command line is parsed to the options that it spells, however it spells them, when these name
a directory and a package.
-/

namespace JavadocNames

namespace CommandLine

/-! ## What is chosen -/

/-- What a choice is about. -/
inductive Subject where
  | option (option : ValueOption)
  | flag (flag : Flag)
  deriving DecidableEq

/-- Every subject, in the order of the help. -/
def Subject.all : List Subject :=
  ValueOption.all.map .option ++ Flag.all.map .flag

theorem Subject.mem_all (subject : Subject) : subject ∈ all := by
  rcases subject with option | flag
  · cases option <;> decide
  · cases flag <;> decide

namespace Choice

def subject : Choice → Subject
  | set s => .option s.option
  | raise flag => .flag flag

/-- The choice can be taken in: a path is not empty, and help is not asked for. -/
def IsProper : Choice → Prop
  | set (.javadocPath path) => path.bytes ≠ []
  | set (.output path) => path.bytes ≠ []
  | set _ => True
  | raise flag => flag ≠ .help

end Choice

namespace Given

variable {given next : Given} {choice : Choice}

/-- What has been chosen on a subject. -/
def chosen? (given : Given) : Subject → Option Choice
  | .option .javadocPath => given.javadocPath.map fun path => .set (.javadocPath path)
  | .option .packageName => given.packageName.map fun name => .set (.packageName name)
  | .option .output => given.output.map fun path => .set (.output path)
  | .option .format => given.format.map fun format => .set (.format format)
  | .flag .keepGoing => if given.keepGoing then some (.raise .keepGoing) else none
  | .flag .verbose => if given.verbose then some (.raise .verbose) else none
  | .flag .log => if given.log then some (.raise .log) else none
  | .flag .help => none

/-- Everything that has been chosen. -/
def choices (given : Given) : List Choice :=
  Subject.all.filterMap given.chosen?

theorem subject_of_chosen? {subject : Subject} (h : given.chosen? subject = some choice) :
    choice.subject = subject := by
  rcases subject with option | flag
  · cases option <;> obtain ⟨value, -, rfl⟩ := Option.map_eq_some_iff.mp h <;> rfl
  · cases flag <;> simp [chosen?] at h <;> rw [← h.2] <;> rfl

theorem mem_choices : choice ∈ given.choices ↔ given.chosen? choice.subject = some choice := by
  rw [choices, List.mem_filterMap]
  constructor
  · rintro ⟨subject, -, hsubject⟩
    rw [subject_of_chosen? hsubject]
    exact hsubject
  · intro h
    exact ⟨choice.subject, Subject.mem_all _, h⟩

/-- There is one choice at most on a subject. -/
theorem pairwise_subject_choices :
    given.choices.Pairwise fun choice other => choice.subject ≠ other.subject := by
  have hall : Subject.all.Nodup := by decide
  refine List.Pairwise.filterMap _ ?_ hall
  intro subject other hne choice hchoice choice' hchoice'
  rw [subject_of_chosen? hchoice, subject_of_chosen? hchoice']
  exact hne

/-- What is chosen is all that there is to some options. -/
theorem eq_of_chosen? (h : ∀ choice : Choice, given.chosen? choice.subject = some choice ↔
    next.chosen? choice.subject = some choice) : given = next := by
  have hpath : given.javadocPath = next.javadocPath :=
    Option.ext fun path => by
      simpa [chosen?, Choice.subject, Setting.option] using h (.set (.javadocPath path))
  have hname : given.packageName = next.packageName :=
    Option.ext fun name => by
      simpa [chosen?, Choice.subject, Setting.option] using h (.set (.packageName name))
  have houtput : given.output = next.output :=
    Option.ext fun path => by
      simpa [chosen?, Choice.subject, Setting.option] using h (.set (.output path))
  have hformat : given.format = next.format :=
    Option.ext fun format => by
      simpa [chosen?, Choice.subject, Setting.option] using h (.set (.format format))
  have hkeep : given.keepGoing = next.keepGoing := by
    simpa [chosen?, Choice.subject] using h (.raise .keepGoing)
  have hverbose : given.verbose = next.verbose := by
    simpa [chosen?, Choice.subject] using h (.raise .verbose)
  have hlog : given.log = next.log := by
    simpa [chosen?, Choice.subject] using h (.raise .log)
  cases given
  cases next
  simp_all

/-! ## Taking in one choice -/

/-- The options with one choice more. -/
def put (given : Given) : Choice → Given
  | .set (.javadocPath path) => { given with javadocPath := some path }
  | .set (.packageName name) => { given with packageName := some name }
  | .set (.output path) => { given with output := some path }
  | .set (.format format) => { given with format := some format }
  | .raise .keepGoing => { given with keepGoing := true }
  | .raise .verbose => { given with verbose := true }
  | .raise .log => { given with log := true }
  | .raise .help => given

/-- A choice is found under its subject, and nothing else changes. -/
theorem chosen?_put (h : choice.IsProper) (subject : Subject) :
    (given.put choice).chosen? subject =
      if subject = choice.subject then some choice else given.chosen? subject := by
  rcases choice with s | flag
  · rcases subject with option | flag
    · cases s <;> cases option <;> rfl
    · cases s <;> cases flag <;> rfl
  · cases flag with
    | help => exact absurd rfl h
    | _ =>
        rcases subject with option | flag
        · cases option <;> rfl
        · cases flag <;> rfl

theorem has_eq_isSome_chosen? (option : ValueOption) :
    given.has option = (given.chosen? (.option option)).isSome := by
  cases option <;> simp [has, chosen?]

theorem store_eq_ok_iff {s : Setting} : given.store s.option s.value = .ok next ↔
    (Choice.set s).IsProper ∧ given.chosen? (.option s.option) = none ∧
      next = given.put (.set s) := by
  rw [store.eq_def, has_eq_isSome_chosen?]
  cases hchosen : given.chosen? (.option s.option) with
  | some choice => simp
  | none =>
      rw [if_neg (by simp)]
      -- The value is read back from how it is written.
      cases s with
      | javadocPath path =>
          by_cases hempty : path.bytes = [] <;>
            simp [Setting.option, Setting.value, Choice.IsProper, put, pathOf, hempty, Except.map,
              eq_comm]
      | packageName name =>
          simp [Setting.option, Setting.value, Choice.IsProper, put, textOf, Utf8.decode?_encode,
            Except.map, eq_comm]
      | output path =>
          by_cases hempty : path.bytes = [] <;>
            simp [Setting.option, Setting.value, Choice.IsProper, put, pathOf, hempty, Except.map,
              eq_comm]
      | format format =>
          have hformat : formatOf (Utf8.encode format.name) = .ok format := by
            cases format <;> rfl
          simp [Setting.option, Setting.value, Choice.IsProper, put, hformat, Except.map, eq_comm]

theorem raise_eq_ok_iff {flag : Flag} : given.raise flag = .ok next ↔
    (Choice.raise flag).IsProper ∧ given.chosen? (.flag flag) = none ∧
      next = given.put (.raise flag) := by
  have honce (raised : Bool) (new : Given) :
      raise.once flag raised new = .ok next ↔ raised = false ∧ next = new := by
    cases raised <;> simp [raise.once, @eq_comm _ next]
  cases flag with
  | help => simp [raise, Choice.IsProper]
  | _ =>
      rw [raise.eq_def, honce]
      simp [Choice.IsProper, chosen?, put]

/-- A choice is taken in when it is proper and the first on its subject. -/
theorem add_eq_ok_iff : given.add choice = .ok next ↔
    choice.IsProper ∧ given.chosen? choice.subject = none ∧ next = given.put choice := by
  cases choice with
  | set s => exact store_eq_ok_iff
  | raise flag => exact raise_eq_ok_iff

/-! ## Taking in choices -/

/-- What is there after some choices are these choices and what was there before. -/
theorem chosen?_of_addAll {choices : List Choice} (h : given.addAll choices = .ok next) :
    (∀ choice ∈ choices, choice.IsProper) ∧
      ∀ choice, next.chosen? choice.subject = some choice ↔
        choice ∈ choices ∨ given.chosen? choice.subject = some choice := by
  induction choices generalizing given with
  | nil =>
      obtain rfl : given = next := Except.ok.inj h
      simp
  | cons first choices ih =>
      rw [addAll_cons] at h
      cases hadd : given.add first with
      | error stop =>
          rw [hadd] at h
          contradiction
      | ok between =>
          rw [hadd] at h
          obtain ⟨hproper, hnone, rfl⟩ := add_eq_ok_iff.mp hadd
          obtain ⟨hmore, hchosen⟩ := ih h
          refine ⟨List.forall_mem_cons.mpr ⟨hproper, hmore⟩, fun choice => ?_⟩
          rw [hchosen, chosen?_put hproper, List.mem_cons]
          -- On the subject of the first choice there was nothing before, on others nothing changes.
          by_cases hsubject : choice.subject = first.subject
          · rw [if_pos hsubject, hsubject, hnone]
            simp [eq_comm, or_comm]
          · have hne : choice ≠ first := fun heq => hsubject (heq ▸ rfl)
            rw [if_neg hsubject]
            simp [hne]

/-- Proper choices are taken in when there is one at most on each subject. -/
theorem exists_addAll {choices : List Choice} (hproper : ∀ choice ∈ choices, choice.IsProper)
    (hpairwise : choices.Pairwise fun choice other => choice.subject ≠ other.subject)
    (hnone : ∀ choice ∈ choices, given.chosen? choice.subject = none) :
    ∃ next, given.addAll choices = .ok next := by
  induction choices generalizing given with
  | nil => exact ⟨given, rfl⟩
  | cons first choices ih =>
      obtain ⟨hfirst, hmore⟩ := List.forall_mem_cons.mp hproper
      obtain ⟨hne, hpairwise⟩ := List.pairwise_cons.mp hpairwise
      obtain ⟨hfree, hnone⟩ := List.forall_mem_cons.mp hnone
      have hadd : given.add first = .ok (given.put first) :=
        add_eq_ok_iff.mpr ⟨hfirst, hfree, rfl⟩
      rw [addAll_cons, hadd]
      refine ih hmore hpairwise fun choice hchoice => ?_
      rw [chosen?_put hfirst, if_neg (hne choice hchoice).symm]
      exact hnone choice hchoice

/-- The order of the choices makes no difference. -/
theorem addAll_nothing_eq_ok_iff {choices : List Choice} (h : choices.Perm given.choices) :
    nothing.addAll choices = .ok next ↔ (∀ choice ∈ choices, choice.IsProper) ∧ next = given := by
  have hnothing : ∀ subject, nothing.chosen? subject = none := by
    rintro (option | flag)
    · cases option <;> rfl
    · cases flag <;> rfl
  have heq : ∀ next, nothing.addAll choices = .ok next → next = given := by
    intro next hnext
    refine eq_of_chosen? fun choice => ?_
    rw [(chosen?_of_addAll hnext).2, hnothing, h.mem_iff, mem_choices]
    simp
  constructor
  · intro hnext
    exact ⟨(chosen?_of_addAll hnext).1, heq next hnext⟩
  · rintro ⟨hproper, rfl⟩
    have hpairwise : choices.Pairwise fun choice other => choice.subject ≠ other.subject :=
      (h.pairwise_iff fun hne => hne.symm).mpr pairwise_subject_choices
    obtain ⟨next', hnext⟩ := exists_addAll hproper hpairwise fun choice _ => hnothing _
    rw [hnext, heq next' hnext]

/-- Help is never among the choices, so they are proper when the paths are. -/
theorem isProper_of_mem_choices (hpath : ∀ path ∈ given.javadocPath, path.bytes ≠ [])
    (houtput : ∀ path ∈ given.output, path.bytes ≠ []) (h : choice ∈ given.choices) :
    choice.IsProper := by
  rw [mem_choices] at h
  rcases choice with s | flag
  · cases s with
    | javadocPath path =>
        exact hpath path (by simpa [chosen?, Choice.subject, Setting.option] using h)
    | output path =>
        exact houtput path (by simpa [chosen?, Choice.subject, Setting.option] using h)
    | packageName name => trivial
    | format format => trivial
  · rintro rfl
    contradiction

end Given

/-! ## Parsing -/

variable {disk : Disk} {arguments : Arguments} {given : Given} {line : List Bytes}

/-- Options that name a directory and a package are complete. -/
theorem complete_eq_ok {path : Path} {name : Text} (hpath : given.javadocPath = some path)
    (hname : given.packageName = some name) (hdirectory : disk.isDirectory path = true) :
    given.complete disk = .ok ⟨path, name, given.output, given.format.getD .attr,
      given.keepGoing, given.verbose, given.log⟩ := by
  have hgiven : given ≠ .nothing := by
    rintro rfl
    contradiction
  rw [Given.complete, if_neg hgiven, hpath, hname]
  exact if_pos hdirectory

/-- Options that are complete name a directory and a package. -/
theorem named_of_complete (h : given.complete disk = .ok arguments) :
    given.javadocPath = some arguments.javadocPath ∧
      given.packageName = some arguments.packageName ∧
      disk.isDirectory arguments.javadocPath = true := by
  rw [Given.complete] at h
  split at h
  · contradiction
  · split at h
    case h_2 => contradiction
    case h_1 path name hpath hname =>
      split at h
      case isFalse => contradiction
      case isTrue hdirectory =>
          obtain rfl := Except.ok.inj h
          exact ⟨hpath, hname, hdirectory⟩

theorem parse_eq_ok_iff : parse disk line = .ok arguments ↔
    ∃ given, optionsOf line.tail = .ok given ∧ given.complete disk = .ok arguments := by
  have hread : read disk line.tail = optionsOf line.tail >>= fun given => given.complete disk :=
    rfl
  have hparse : parse disk line = .ok arguments ↔ read disk line.tail = .ok arguments := by
    rw [parse]
    cases read disk line.tail <;> simp
  rw [hparse, hread]
  cases optionsOf line.tail with
  | error stop => simp [bind, Except.bind]
  | ok given => simp [bind, Except.bind]

/-- The arguments of a command line name a directory. -/
theorem isDirectory_of_parse (h : parse disk line = .ok arguments) :
    disk.isDirectory arguments.javadocPath = true := by
  obtain ⟨given, -, hcomplete⟩ := parse_eq_ok_iff.mp h
  exact (named_of_complete hcomplete).2.2

/-- The words of some spellings are read as the options that they spell. -/
theorem optionsOf_spelled {spellings : List Spelling} (hreadable : ∀ s ∈ spellings, s.IsReadable)
    (hchoices : (spellings.flatMap Spelling.choices).Perm given.choices) {next : Given} :
    optionsOf (spellings.flatMap Spelling.words) = .ok next ↔
      (∀ choice ∈ given.choices, choice.IsProper) ∧ next = given := by
  have hwords : optionsOf (spellings.flatMap Spelling.words) =
      Given.nothing.addAll (spellings.flatMap Spelling.choices) :=
    Reading.words_spelled hreadable ⟨.nothing, .nothing⟩
  rw [hwords, Given.addAll_nothing_eq_ok_iff hchoices]
  simp only [hchoices.mem_iff]

/-- However some options are spelled, and in whatever order, a command line is parsed to
exactly these options when they name a directory and a package, and to some text to show when
they do not. -/
theorem parse_spelled (disk : Disk) (program : Bytes) {given : Given}
    {spellings : List Spelling} (hreadable : ∀ s ∈ spellings, s.IsReadable)
    (hchoices : (spellings.flatMap Spelling.choices).Perm given.choices) :
    (∀ path name, given.javadocPath = some path → given.packageName = some name →
      disk.isDirectory path = true → (∀ file ∈ given.output, file.bytes ≠ []) →
      parse disk (program :: spellings.flatMap Spelling.words) =
        .ok ⟨path, name, given.output, given.format.getD .attr, given.keepGoing,
          given.verbose, given.log⟩) ∧
    (((∀ path ∈ given.javadocPath, disk.isDirectory path = false) ∨
        given.packageName = none) →
      ∃ text, parse disk (program :: spellings.flatMap Spelling.words) = .error text) := by
  constructor
  · intro path name hpath hname hdirectory houtput
    have hne : ∀ other ∈ given.javadocPath, other.bytes ≠ [] := by
      intro other hother
      obtain rfl : path = other := Option.some.inj (hpath.symm.trans hother)
      obtain ⟨place, hplace⟩ := Disk.isDirectory_iff.mp hdirectory
      exact hplace.bytes_ne_nil
    have hproper : ∀ choice ∈ given.choices, choice.IsProper := fun choice hchoice =>
      Given.isProper_of_mem_choices hne houtput hchoice
    exact parse_eq_ok_iff.mpr ⟨given, (optionsOf_spelled hreadable hchoices).mpr ⟨hproper, rfl⟩,
      complete_eq_ok hpath hname hdirectory⟩
  · intro hmissing
    cases hparse : parse disk (program :: spellings.flatMap Spelling.words) with
    | error text => exact ⟨text, rfl⟩
    | ok arguments =>
        obtain ⟨next, hoptions, hcomplete⟩ := parse_eq_ok_iff.mp hparse
        obtain ⟨-, rfl⟩ := (optionsOf_spelled hreadable hchoices).mp hoptions
        obtain ⟨hpath, hname, hdirectory⟩ := named_of_complete hcomplete
        rcases hmissing with hnone | hnone
        · rw [hnone _ hpath] at hdirectory
          contradiction
        · rw [hnone] at hname
          contradiction

namespace Mixed

/-- A disk with an empty directory. -/
def tree : Disk :=
  ⟨.directory [(Utf8.encode "docs".toList, .directory [])], []⟩

/-- Options of which the package and the output file look like more options. -/
def wanted : Given :=
  ⟨some (Path.ofText "docs".toList), some "-p".toList, some (Path.ofText "=x".toList),
    some .json, true, true, false⟩

/-- The same without the package. -/
def nameless : Given :=
  { wanted with packageName := none }

/-- The options, spelled in different ways. -/
def spellings : List Spelling :=
  [.longEquals (.packageName "-p".toList), .flags [.verbose],
    .bundle [.keepGoing] (.javadocPath (Path.ofText "docs".toList)) .apart,
    .bundle [] (.output (Path.ofText "=x".toList)) .equals, .bundle [] (.format .json) .attached]

theorem parse_spelled_mixed :
    spellings.flatMap Spelling.words =
        ["--package-name=-p", "-v", "-kj", "docs", "-o==x", "-fjson"].map
          (fun word => Utf8.encode word.toList) ∧
      (∀ s ∈ spellings, s.IsReadable) ∧
      (spellings.flatMap Spelling.choices).Perm wanted.choices ∧
      parse tree ([] :: spellings.flatMap Spelling.words) =
        .ok ⟨Path.ofText "docs".toList, "-p".toList, some (Path.ofText "=x".toList), .json, true,
          true, false⟩ ∧
      ∃ text, parse tree ([] :: spellings.tail.flatMap Spelling.words) = .error text := by
  have hreadable : ∀ s ∈ spellings, s.IsReadable := by decide
  have hchoices : (spellings.flatMap Spelling.choices).Perm wanted.choices := by decide
  have hnameless : (spellings.tail.flatMap Spelling.choices).Perm nameless.choices := by decide
  have hdirectory : tree.isDirectory (Path.ofText "docs".toList) = true := by cbv
  have hoptional : ∀ file ∈ wanted.output, file.bytes ≠ [] := by decide
  refine ⟨by decide, hreadable, hchoices, ?_, ?_⟩
  · exact (parse_spelled tree [] hreadable hchoices).1 _ _ rfl rfl hdirectory hoptional
  · exact (parse_spelled tree [] (fun s hs => hreadable s (List.mem_of_mem_tail hs)) hnameless).2
      (.inr rfl)

end Mixed

end CommandLine

end JavadocNames
