import JavadocNames.CommandLine.Reading
import JavadocNames.Proofs.Text.Utf8

/-!
# Spellings of options

An option can be spelled in several ways: by its long or its short name, its value in a
word of its own or in the same word, and several short names in one word.  Reading the
words of some spellings comes to the same as taking in the options one by one, whatever
the values are.  A value in a word of its own is taken in late, when the next option is
met, but nothing comes in between.
-/

namespace JavadocNames

namespace CommandLine

/-- An option with its value. -/
inductive Setting where
  | javadocPath (path : Path)
  | packageName (name : Text)
  | output (path : Path)
  | format (format : OutputFormat)
  deriving DecidableEq

namespace Setting

def option : Setting → ValueOption
  | javadocPath _ => .javadocPath
  | packageName _ => .packageName
  | output _ => .output
  | format _ => .format

/-- The value as it is written. -/
def value : Setting → Bytes
  | javadocPath path => path.bytes
  | packageName name => Utf8.encode name
  | output path => path.bytes
  | format f => Utf8.encode f.name

end Setting

/-- One thing that a command line asks for. -/
inductive Choice where
  | set (setting : Setting)
  | raise (flag : Flag)
  deriving DecidableEq

/-- Take in one choice. -/
def Given.add (given : Given) : Choice → Except Stop Given
  | .set s => given.store s.option s.value
  | .raise flag => given.raise flag

/-- Take in some choices, one after the other. -/
def Given.addAll (given : Given) (choices : List Choice) : Except Stop Given :=
  choices.foldlM Given.add given

/-- How the value of an option stands to its name. -/
inductive Joint where
  /-- In the next word. -/
  | apart
  /-- Behind the short name in the same word. -/
  | attached
  /-- Behind an equals sign in the same word. -/
  | equals
  deriving DecidableEq

/-- A way to spell some choices. -/
inductive Spelling where
  | longFlag (flag : Flag)
  | longApart (setting : Setting)
  | longEquals (setting : Setting)
  /-- Short flags in one word. -/
  | flags (flags : List Flag)
  /-- Short flags and behind them an option with its value. -/
  | bundle (flags : List Flag) (setting : Setting) (joint : Joint)

namespace Spelling

/-- The choices that are spelled, in order. -/
def choices : Spelling → List Choice
  | longFlag flag => [.raise flag]
  | longApart s => [.set s]
  | longEquals s => [.set s]
  | flags fs => fs.map .raise
  | bundle fs s _ => fs.map .raise ++ [.set s]

/-- A word of some short names. -/
def shortWord (fs : List Flag) (rest : Bytes) : Bytes :=
  Utf8.encode ('-' :: fs.map Flag.short) ++ rest

/-- The words of a spelling. -/
def words : Spelling → List Bytes
  | longFlag flag => [Utf8.encode ("--".toList ++ flag.long)]
  | longApart s => [Utf8.encode ("--".toList ++ s.option.long), s.value]
  | longEquals s => [Utf8.encode ("--".toList ++ s.option.long ++ ['=']) ++ s.value]
  | flags fs => [shortWord fs []]
  | bundle fs s .apart => [shortWord fs (Utf8.encode [s.option.short]), s.value]
  | bundle fs s .attached => [shortWord fs (Utf8.encode [s.option.short] ++ s.value)]
  | bundle fs s .equals => [shortWord fs (Utf8.encode [s.option.short, '='] ++ s.value)]

/-- The value does not look like an option: it does not start with a hyphen, or is a single
hyphen. -/
def StandsApart (value : Bytes) : Prop :=
  value.head? ≠ some Reading.hyphen ∨ value = [Reading.hyphen]

instance (value : Bytes) : Decidable (StandsApart value) :=
  inferInstanceAs (Decidable (_ ∨ _))

/-- The spelling can be told from others: a value apart does not look like an option, an
attached value is there and does not start with an equals sign, and a word of flags has one. -/
def IsReadable : Spelling → Prop
  | longFlag _ => True
  | longApart s => StandsApart s.value
  | longEquals _ => True
  | flags fs => fs ≠ []
  | bundle _ s .apart => StandsApart s.value
  | bundle _ s .attached => s.value ≠ [] ∧ s.value.head? ≠ some Reading.equals
  | bundle _ _ .equals => True

instance : DecidablePred IsReadable
  | longFlag _ => .isTrue trivial
  | longApart s => inferInstanceAs (Decidable (StandsApart s.value))
  | longEquals _ => .isTrue trivial
  | flags fs => inferInstanceAs (Decidable (fs ≠ []))
  | bundle _ s .apart => inferInstanceAs (Decidable (StandsApart s.value))
  | bundle _ s .attached =>
      inferInstanceAs (Decidable (s.value ≠ [] ∧ s.value.head? ≠ some Reading.equals))
  | bundle _ _ .equals => .isTrue trivial

/-- The choices that are taken in as soon as the words are read. -/
def settled : Spelling → List Choice
  | longApart _ => []
  | bundle fs _ .apart => fs.map .raise
  | spelling => spelling.choices

/-- What the words leave to be looked at: a value in a word of its own. -/
def pending : Spelling → Pending
  | longApart s => .holds s.option s.value
  | bundle _ s .apart => .holds s.option s.value
  | _ => .nothing

end Spelling

/-! ## Taking in choices -/

namespace Given

variable {given : Given}

theorem addAll_cons (choice : Choice) (choices : List Choice) :
    given.addAll (choice :: choices) =
      given.add choice >>= fun next => next.addAll choices :=
  rfl

theorem addAll_singleton (choice : Choice) : given.addAll [choice] = given.add choice :=
  bind_pure _

theorem addAll_append (front choices : List Choice) :
    given.addAll (front ++ choices) =
      given.addAll front >>= fun next => next.addAll choices :=
  List.foldlM_append

end Given

namespace Reading

variable {α : Type}

theorem raised_bind (state : Reading) (flag : Flag) (f : Reading → Except Stop α) :
    state.raised flag >>= f =
      state.settle >>= fun given => given.add (.raise flag) >>= fun next =>
        f ⟨next, .nothing⟩ := by
  show (state.settle >>= fun given => given.raise flag >>= fun next => pure _) >>= f = _
  simp only [bind_assoc, pure_bind]
  rfl

theorem attached_bind (state : Reading) (s : Setting) (f : Reading → Except Stop α) :
    state.attached s.option s.value >>= f =
      state.settle >>= fun given => given.add (.set s) >>= fun next =>
        f ⟨next, .nothing⟩ := by
  show (state.settle >>= fun given => given.store s.option s.value >>= fun next =>
    pure _) >>= f = _
  simp only [bind_assoc, pure_bind]
  rfl

theorem detached_bind (state : Reading) (option : ValueOption) (f : Reading → Except Stop α) :
    state.detached option >>= f = state.settle >>= fun given => f ⟨given, .awaits option⟩ := by
  show (state.settle >>= fun given => pure _) >>= f = _
  simp only [bind_assoc, pure_bind]

theorem long_flag (state : Reading) (flag : Flag) :
    state.long (Utf8.encode flag.long) = state.raised flag := by
  cases flag <;> rfl

theorem long_apart (state : Reading) (option : ValueOption) :
    state.long (Utf8.encode option.long) = state.detached option := by
  cases option <;> rfl

theorem long_equals (state : Reading) (option : ValueOption) (value : Bytes) :
    state.long (Utf8.encode option.long ++ equals :: value) = state.attached option value := by
  cases option <;> rfl

theorem letters_flag (state : Reading) (flag : Flag) (rest : Bytes) :
    state.letters (Utf8.encode [flag.short] ++ rest) =
      state.raised flag >>= fun next => next.letters rest := by
  cases flag <;> rfl

theorem letters_apart (state : Reading) (option : ValueOption) :
    state.letters (Utf8.encode [option.short]) = state.detached option := by
  cases option <;> rfl

theorem letters_attached (state : Reading) (option : ValueOption) (next : UInt8) (value : Bytes) :
    state.letters (Utf8.encode [option.short] ++ next :: value) =
      state.attached option (if next = equals then value else next :: value) := by
  cases option <;> rfl

/-! ## One word -/

theorem words_long {body : Bytes} (hbody : body ≠ []) (state : Reading) (rest : List Bytes) :
    state.words ((hyphen :: hyphen :: body) :: rest) =
      state.long body >>= fun next => next.words rest := by
  have hend : hyphen :: hyphen :: body ≠ [hyphen, hyphen] := by
    simpa using hbody
  show (if _ = _ then _ else _) = _
  rw [if_neg hend]
  rfl

theorem words_letters {body : Bytes} (hbody : body ≠ []) (hhead : body.head? ≠ some hyphen)
    (state : Reading) (rest : List Bytes) :
    state.words ((hyphen :: body) :: rest) =
      state.letters body >>= fun next => next.words rest := by
  have hend : hyphen :: body ≠ [hyphen, hyphen] := by
    intro heq
    rw [List.cons_inj_right] at heq
    exact hhead (by rw [heq]; rfl)
  have hword : state.word (hyphen :: body) = state.letters body := by
    simp [word, hbody, hhead]
  show (if _ = _ then _ else _) = _
  rw [if_neg hend, hword]

/-- A value that does not look like an option is kept for the option that awaits it. -/
theorem words_value {value : Bytes} (h : Spelling.StandsApart value) (given : Given)
    (option : ValueOption) (rest : List Bytes) :
    words ⟨given, .awaits option⟩ (value :: rest) = words ⟨given, .holds option value⟩ rest := by
  have hend : value ≠ [hyphen, hyphen] := by
    rintro rfl
    simp [Spelling.StandsApart] at h
  have hword : word ⟨given, .awaits option⟩ value = .ok ⟨given, .holds option value⟩ := by
    cases value with
    | nil => rfl
    | cons first more =>
        have hplain : first ≠ hyphen ∨ more = [] := by
          rcases h with hhead | hsingle
          · exact .inl (by simpa using hhead)
          · exact .inr (List.cons.inj hsingle).2
        simp [word, hplain, plain]
  show (if _ = _ then _ else _) = _
  rw [if_neg hend, hword]
  rfl

/-! ## Short names in one word -/

/-- The bytes start by the short name of a flag or of an option. -/
def StartsByName (bytes : Bytes) : Prop :=
  (∃ flag rest, bytes = Utf8.encode [Flag.short flag] ++ rest) ∨
    ∃ option rest, bytes = Utf8.encode [ValueOption.short option] ++ rest

theorem StartsByName.exists_cons {bytes : Bytes} (h : StartsByName bytes) :
    ∃ first rest, bytes = first :: rest ∧ first ≠ hyphen := by
  rcases h with ⟨flag, rest, rfl⟩ | ⟨option, rest, rfl⟩
  · cases flag <;> exact ⟨_, rest, rfl, by decide⟩
  · cases option <;> exact ⟨_, rest, rfl, by decide⟩

theorem encode_short_cons (flag : Flag) (fs : List Flag) (body : Bytes) :
    Utf8.encode ((flag :: fs).map Flag.short) ++ body =
      Utf8.encode [flag.short] ++ (Utf8.encode (fs.map Flag.short) ++ body) := by
  rw [← List.append_assoc, ← Utf8.encode_append]
  rfl

theorem startsByName_flags {fs : List Flag} (h : fs ≠ []) (body : Bytes) :
    StartsByName (Utf8.encode (fs.map Flag.short) ++ body) := by
  obtain ⟨flag, more, rfl⟩ := List.exists_cons_of_ne_nil h
  exact .inl ⟨flag, _, encode_short_cons flag more body⟩

theorem startsByName_bundle (fs : List Flag) (option : ValueOption) (body : Bytes) :
    StartsByName (Utf8.encode (fs.map Flag.short) ++ (Utf8.encode [option.short] ++ body)) := by
  by_cases hfs : fs = []
  · exact .inr ⟨option, body, by rw [hfs]; rfl⟩
  · exact startsByName_flags hfs _

/-- Flags in front of other letters are raised first. -/
theorem letters_flags (fs : List Flag) (given : Given) (body : Bytes) :
    letters ⟨given, .nothing⟩ (Utf8.encode (fs.map Flag.short) ++ body) =
      given.addAll (fs.map .raise) >>= fun next => letters ⟨next, .nothing⟩ body := by
  induction fs generalizing given with
  | nil => rfl
  | cons flag fs ih =>
      rw [encode_short_cons, letters_flag, raised_bind, List.map_cons, Given.addAll_cons,
        bind_assoc]
      exact bind_congr fun next => ih next

/-- What is pending is looked at before the first short name is. -/
theorem letters_eq_settle_bind (state : Reading) {bytes : Bytes} (h : StartsByName bytes) :
    state.letters bytes = state.settle >>= fun given => letters ⟨given, .nothing⟩ bytes := by
  rcases h with ⟨flag, rest, rfl⟩ | ⟨option, rest, rfl⟩
  · simp only [letters_flag, ← bind_assoc]
    rfl
  · cases rest with
    | nil =>
        simp only [List.append_nil, letters_apart]
        rfl
    | cons next value =>
        simp only [letters_attached]
        rfl

/-- A word of flags, and what else there is in it. -/
theorem words_shortWord {fs : List Flag} {body : Bytes}
    (h : StartsByName (Utf8.encode (fs.map Flag.short) ++ body)) (state : Reading)
    (rest : List Bytes) :
    state.words (Spelling.shortWord fs body :: rest) =
      state.settle >>= fun given => given.addAll (fs.map .raise) >>= fun next =>
        letters ⟨next, .nothing⟩ body >>= fun after => after.words rest := by
  have hword : Spelling.shortWord fs body =
      hyphen :: (Utf8.encode (fs.map Flag.short) ++ body) := rfl
  obtain ⟨first, more, hcons, hfirst⟩ := h.exists_cons
  have hne : Utf8.encode (fs.map Flag.short) ++ body ≠ [] := by
    simp [hcons]
  have hhead : (Utf8.encode (fs.map Flag.short) ++ body).head? ≠ some hyphen := by
    simpa [hcons] using hfirst
  rw [hword, words_letters hne hhead, letters_eq_settle_bind state h]
  simp only [letters_flags, bind_assoc]

/-- A word of flags and of an option with its value. -/
theorem words_joined {fs : List Flag} {s : Setting} {body : Bytes}
    (h : StartsByName (Utf8.encode (fs.map Flag.short) ++ body))
    (hbody : ∀ state : Reading, state.letters body = state.attached s.option s.value)
    (state : Reading) (rest : List Bytes) :
    state.words (Spelling.shortWord fs body :: rest) =
      state.settle >>= fun given => given.addAll (fs.map .raise ++ [.set s]) >>= fun next =>
        words ⟨next, .nothing⟩ rest := by
  rw [words_shortWord h]
  refine bind_congr fun given => ?_
  rw [Given.addAll_append, bind_assoc]
  refine bind_congr fun next => ?_
  rw [hbody, attached_bind, Given.addAll_singleton]
  rfl

/-! ## Spellings -/

/-- Reading the words of one spelling.  What is pending before them is looked at first. -/
theorem words_append {spelling : Spelling} (h : spelling.IsReadable) (state : Reading)
    (rest : List Bytes) :
    state.words (spelling.words ++ rest) =
      state.settle >>= fun given => given.addAll spelling.settled >>= fun next =>
        words ⟨next, spelling.pending⟩ rest := by
  cases spelling with
  | longFlag flag =>
      have hne : Utf8.encode flag.long ≠ [] := by
        cases flag <;> decide
      show state.words ((hyphen :: hyphen :: Utf8.encode flag.long) :: rest) = _
      rw [words_long hne, long_flag, raised_bind]
      refine bind_congr fun given => ?_
      rw [show (Spelling.longFlag flag).settled = [.raise flag] from rfl, Given.addAll_singleton]
      rfl
  | longApart s =>
      have hne : Utf8.encode s.option.long ≠ [] := by
        cases s.option <;> decide
      show state.words ((hyphen :: hyphen :: Utf8.encode s.option.long) :: s.value :: rest) = _
      rw [words_long hne, long_apart, detached_bind]
      -- The second word is not looked at yet: it stays pending, as `pending` has it.
      exact bind_congr fun given => words_value h given s.option rest
  | longEquals s =>
      have hword : Utf8.encode ("--".toList ++ s.option.long ++ ['=']) ++ s.value =
          hyphen :: hyphen :: (Utf8.encode s.option.long ++ equals :: s.value) := by
        rw [Utf8.encode_append, Utf8.encode_append, List.append_assoc, List.append_assoc]
        rfl
      show state.words
        ((Utf8.encode ("--".toList ++ s.option.long ++ ['=']) ++ s.value) :: rest) = _
      rw [hword, words_long (by simp), long_equals, attached_bind]
      refine bind_congr fun given => ?_
      rw [show (Spelling.longEquals s).settled = [.set s] from rfl, Given.addAll_singleton]
      rfl
  | flags fs =>
      show state.words (Spelling.shortWord fs [] :: rest) = _
      rw [words_shortWord (startsByName_flags h [])]
      rfl
  | bundle fs s joint =>
      cases joint with
      | apart =>
          have hname := startsByName_bundle fs s.option []
          rw [List.append_nil] at hname
          show state.words
            (Spelling.shortWord fs (Utf8.encode [s.option.short]) :: s.value :: rest) = _
          rw [words_shortWord hname]
          refine bind_congr fun given => bind_congr fun next => ?_
          rw [letters_apart, detached_bind]
          exact words_value h next s.option rest
      | attached =>
          obtain ⟨first, more, hvalue⟩ := List.exists_cons_of_ne_nil h.1
          have hfirst : first ≠ equals := by
            simpa [hvalue] using h.2
          refine words_joined (startsByName_bundle fs s.option _) (fun between => ?_) state rest
          rw [hvalue, letters_attached, if_neg hfirst]
      | equals =>
          have hletters : Utf8.encode [s.option.short, '='] ++ s.value =
              Utf8.encode [s.option.short] ++ equals :: s.value := by
            cases s.option <;> rfl
          have hname := startsByName_bundle fs s.option (equals :: s.value)
          rw [← hletters] at hname
          refine words_joined hname (fun between => ?_) state rest
          rw [hletters, letters_attached, if_pos rfl]

/-- What a spelling leaves pending is the rest of its choices. -/
theorem addAll_settled_bind (spelling : Spelling) (given : Given) :
    (given.addAll spelling.settled >>= fun next => settle ⟨next, spelling.pending⟩) =
      given.addAll spelling.choices := by
  have hpure (spelling : Spelling) : (given.addAll spelling.choices >>= fun next =>
      settle ⟨next, .nothing⟩) = given.addAll spelling.choices :=
    bind_pure _
  cases spelling with
  | longFlag flag => exact hpure (.longFlag flag)
  | longApart s => exact (Given.addAll_singleton (.set s)).symm
  | longEquals s => exact hpure (.longEquals s)
  | flags fs => exact hpure (.flags fs)
  | bundle fs s joint =>
      cases joint with
      | apart =>
          show _ = given.addAll (fs.map .raise ++ [.set s])
          rw [Given.addAll_append]
          exact bind_congr fun next => (Given.addAll_singleton (.set s)).symm
      | attached => exact hpure (.bundle fs s .attached)
      | equals => exact hpure (.bundle fs s .equals)

/-- Reading the words of some spellings takes in their choices, in order. -/
theorem words_spelled {spellings : List Spelling} (h : ∀ s ∈ spellings, s.IsReadable)
    (state : Reading) :
    state.words (spellings.flatMap Spelling.words) =
      state.settle >>= fun given => given.addAll (spellings.flatMap Spelling.choices) := by
  induction spellings generalizing state with
  | nil => exact (bind_pure _).symm
  | cons spelling spellings ih =>
      obtain ⟨hspelling, hmore⟩ := List.forall_mem_cons.mp h
      rw [List.flatMap_cons, List.flatMap_cons, words_append hspelling]
      refine bind_congr fun given => ?_
      -- The induction settles what this spelling has left pending before it goes on.
      rw [Given.addAll_append, ← addAll_settled_bind, bind_assoc]
      exact bind_congr fun next => ih hmore _

end Reading

end CommandLine

end JavadocNames
