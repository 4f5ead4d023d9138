import JavadocNames.Proofs.Document.Rows

/-!
# Rows of different keys

Rows are read one by one, with the counter and the records so far.  A row without a
signature leaves both as they are; any other one adds records of its own key behind those
that are there, and raises the count of that key alone.  So what is read of one key is
decided by the rows of that key: rows of other keys, and rows without a signature, can be
put in, left out or moved around between them.
-/

namespace JavadocNames

namespace OverloadCounter

theorem raise_ne_nil (key : MethodKey) (tally : List (MethodKey × Nat)) :
    raise key tally ≠ [] := by
  cases tally with
  | nil => exact List.cons_ne_nil _ _
  | cons entry rest =>
      rw [raise]
      split <;> exact List.cons_ne_nil _ _

@[simp] theorem isEmpty_next (counter : OverloadCounter) (key : MethodKey) :
    (counter.next key).2.isEmpty = false :=
  List.isEmpty_eq_false_iff.mpr (raise_ne_nil key counter.tally)

/-- The counter after keys have been seen one after the other. -/
def after (counter : OverloadCounter) (keys : List MethodKey) : OverloadCounter :=
  keys.foldl (fun counter key => (counter.next key).2) counter

@[simp] theorem after_cons (counter : OverloadCounter) (key : MethodKey)
    (rest : List MethodKey) :
    counter.after (key :: rest) = (counter.next key).2.after rest := rfl

/-- Every sight of a key counts once, for that key alone. -/
theorem count_after (counter : OverloadCounter) (keys : List MethodKey) (key : MethodKey) :
    (counter.after keys).count key = counter.count key + keys.count key := by
  induction keys generalizing counter with
  | nil => rfl
  | cons first rest ih =>
      rw [after_cons, ih, count_next, List.count_cons, Nat.add_right_comm, Nat.add_assoc]
      simp only [beq_iff_eq]

theorem isEmpty_after (counter : OverloadCounter) (keys : List MethodKey) :
    (counter.after keys).isEmpty = (counter.isEmpty && keys.isEmpty) := by
  induction keys generalizing counter with
  | nil => exact (Bool.and_true _).symm
  | cons first rest ih =>
      rw [after_cons, ih, isEmpty_next, Bool.false_and, List.isEmpty_cons, Bool.and_false]

end OverloadCounter

/-- What a record tells of the key of its method. -/
def NamingRecord.key (record : NamingRecord) : MethodKey :=
  ⟨record.method, record.total⟩

theorem Extractor.extract_eq_none_iff {extractor : Extractor} {text : Text} :
    extractor.extract text = none ↔ extractor.parameters text = [] := by
  rw [extract]
  split <;> simp_all

namespace Naming

variable (naming : Naming) (className : Text)

/-! ## The records of one key -/

theorem key_of_mem_records {signature : Signature} {overload : Nat} {record : NamingRecord}
    (h : record ∈ naming.records className signature overload) :
    record.key = signature.key := by
  obtain ⟨i, hi, rfl⟩ := List.mem_mapIdx.mp h
  rfl

theorem filter_records (signature : Signature) (overload : Nat) (key : MethodKey) :
    (naming.records className signature overload).filter (·.key = key) =
      if signature.key = key then naming.records className signature overload else [] := by
  split
  case isTrue hkey =>
      rw [List.filter_eq_self]
      intro record hrecord
      rw [naming.key_of_mem_records className hrecord]
      exact decide_eq_true hkey
  case isFalse hkey =>
      rw [List.filter_eq_nil_iff]
      intro record hrecord
      rw [naming.key_of_mem_records className hrecord]
      simpa using hkey

/-- The records of a key are those of its signatures, counted on from what the counter
tells. -/
theorem filter_blocks (counter : OverloadCounter) (signatures : List Signature)
    (key : MethodKey) :
    (naming.blocks className counter signatures).flatten.filter (·.key = key) =
      ((signatures.filter (·.key = key)).mapIdx fun i signature =>
        naming.records className signature (counter.count key + 1 + i)).flatten := by
  induction signatures generalizing counter with
  | nil => rfl
  | cons signature rest ih =>
      rw [blocks_cons, List.flatten_cons, List.filter_append, filter_records, ih,
        OverloadCounter.count_next]
      by_cases hkey : signature.key = key
      · -- The first signature of the key takes the next index, and the others follow it.
        have hnext : ∀ i, counter.count key + 1 + 1 + i = counter.count key + 1 + (i + 1) := by
          omega
        rw [if_pos hkey, if_pos hkey, List.filter_cons_of_pos (by simpa using hkey),
          List.mapIdx_cons, List.flatten_cons, hkey, Nat.add_zero]
        simp only [hnext]
      · rw [if_neg hkey, if_neg hkey, List.filter_cons_of_neg (by simpa using hkey),
          List.nil_append, Nat.add_zero]

/-! ## The counter after rows -/

/-- Rows are seen by the counter as the keys of their signatures. -/
theorem rows_counter (counter : OverloadCounter) (texts : List Text) :
    (naming.rows className counter texts).2.2 =
      counter.after ((naming.extractor.signatures texts).map Signature.key) := by
  induction texts generalizing counter with
  | nil => rfl
  | cons text rest ih =>
      cases htext : naming.extractor.extract text with
      | none =>
          rw [Extractor.signatures_cons_none rest htext, ← ih]
          simp [rows, row?, htext]
      | some signature =>
          rw [Extractor.signatures_cons_some rest htext, List.map_cons,
            OverloadCounter.after_cons, ← ih]
          simp [rows, row?, htext, Signature.key]

/-! ## Rows one by one -/

theorem takeRow_of_none {text : Text} (h : naming.extractor.extract text = none)
    (progress : Progress) : naming.takeRow className progress text = (false, progress) := by
  simp [takeRow, row?, h]

theorem takeRow_of_some {text : Text} {signature : Signature}
    (h : naming.extractor.extract text = some signature) (progress : Progress) :
    naming.takeRow className progress text =
      (true, ⟨(progress.counter.next signature.key).2, progress.records ++
        naming.records className signature (progress.counter.count signature.key + 1)⟩) := by
  simp [takeRow, row?, h, Signature.key]

/-- Rows that are read one by one give the records of rows, behind those that are there. -/
theorem takeRows_eq (progress : Progress) (texts : List Text) :
    naming.takeRows className progress texts =
      ⟨(naming.rows className progress.counter texts).2.2,
        progress.records ++ (naming.rows className progress.counter texts).1⟩ := by
  induction texts generalizing progress with
  | nil => simp [takeRows, rows]
  | cons text rest ih =>
      change naming.takeRows className (naming.takeRow className progress text).2 rest = _
      rw [ih]
      cases htext : naming.extractor.extract text with
      | none => simp [takeRow, rows, row?, htext]
      | some signature => simp [takeRow, rows, row?, htext]

/-- The row has a signature of this key. -/
def hasKey (key : MethodKey) (text : Text) : Bool :=
  (naming.extractor.extract text).map Signature.key = some key

theorem filter_signatures (texts : List Text) (key : MethodKey) :
    (naming.extractor.signatures texts).filter (·.key = key) =
      naming.extractor.signatures (texts.filter (naming.hasKey key)) := by
  rw [Extractor.signatures, Extractor.signatures, List.filter_filterMap,
    List.filterMap_filter]
  congr 1
  funext text
  cases htext : naming.extractor.extract text with
  | none => simp
  | some signature => simp [hasKey, htext, Option.filter]

/-- What rows add for a key is decided by the rows of that key. -/
theorem filter_rows (counter : OverloadCounter) (texts : List Text) (key : MethodKey) :
    (naming.rows className counter texts).1.filter (·.key = key) =
      ((naming.extractor.signatures (texts.filter (naming.hasKey key))).mapIdx
        fun i signature =>
          naming.records className signature (counter.count key + 1 + i)).flatten := by
  rw [rows_records, filter_blocks, filter_signatures]

/-- How often rows count for a key is decided by the rows of that key. -/
theorem count_rows (counter : OverloadCounter) (texts : List Text) (key : MethodKey) :
    (naming.rows className counter texts).2.2.count key =
      counter.count key + (texts.filter (naming.hasKey key)).length := by
  have hlength : (naming.extractor.signatures (texts.filter (naming.hasKey key))).length =
      (texts.filter (naming.hasKey key)).length := by
    rw [Extractor.signatures, List.length_filterMap_eq_countP, List.countP_eq_length]
    intro text htext
    have hkey := (List.mem_filter.mp htext).2
    rw [hasKey, decide_eq_true_eq] at hkey
    obtain ⟨signature, hsignature, -⟩ := Option.map_eq_some_iff.mp hkey
    rw [hsignature]
    rfl
  rw [rows_counter, OverloadCounter.count_after, List.count, List.countP_map, ← hlength,
    ← filter_signatures, List.countP_eq_length_filter]
  rfl

/-- The counter is empty behind rows when it was and none of them has a signature. -/
theorem isEmpty_rows (counter : OverloadCounter) (texts : List Text) :
    (naming.rows className counter texts).2.2.isEmpty = true ↔
      counter.isEmpty = true ∧ naming.extractor.signatures texts = [] := by
  rw [rows_counter, OverloadCounter.isEmpty_after, Bool.and_eq_true, List.isEmpty_iff,
    List.map_eq_nil_iff]

theorem signatures_eq_nil_iff (texts : List Text) :
    naming.extractor.signatures texts = [] ↔
      ∀ key, texts.filter (naming.hasKey key) = [] := by
  simp only [List.eq_nil_iff_forall_not_mem, Extractor.signatures, List.mem_filterMap,
    List.mem_filter, hasKey, decide_eq_true_eq, Option.map_eq_some_iff]
  constructor
  · rintro h key text ⟨htext, signature, hsignature, -⟩
    exact h signature ⟨text, htext, hsignature⟩
  · rintro h signature ⟨text, htext, hsignature⟩
    exact h signature.key text ⟨htext, signature, hsignature, rfl⟩

end Naming

/-- A row without a parameter is passed over and changes nothing.  Any other row adds records
of its own key behind those that are there, and counts once for that key alone.  So lists of
rows that have the same rows of each key, in the same order, give the same records of each
key and the same counts, whatever stands between these rows and however rows of different
keys alternate. -/
theorem keys_do_not_interfere (naming : Naming) (className : Text) :
    (∀ (progress : Naming.Progress) (text : Text),
      let (matched, later) := naming.takeRow className progress text
      (matched = false ↔ naming.extractor.parameters text = []) ∧
      (matched = false → later = progress) ∧
      (matched = true → ∃ signature added, naming.extractor.extract text = some signature ∧
        later.records = progress.records ++ added ∧
        (∀ record ∈ added, record.key = signature.key) ∧
        ∀ key, later.counter.count key =
          progress.counter.count key + if key = signature.key then 1 else 0)) ∧
    ∀ (progress : Naming.Progress) (texts texts' : List Text),
      (∀ key, texts.filter (naming.hasKey key) = texts'.filter (naming.hasKey key)) →
      let later := naming.takeRows className progress texts
      let later' := naming.takeRows className progress texts'
      (∀ key, later.records.filter (·.key = key) = later'.records.filter (·.key = key)) ∧
      (∀ key, later.counter.count key = later'.counter.count key) ∧
      later.counter.isEmpty = later'.counter.isEmpty := by
  constructor
  · intro progress text
    cases htext : naming.extractor.extract text with
    | none =>
        rw [naming.takeRow_of_none className htext]
        refine ⟨?_, fun _ => rfl, fun h => absurd h Bool.false_ne_true⟩
        simpa using Extractor.extract_eq_none_iff.mp htext
    | some signature =>
        rw [naming.takeRow_of_some className htext]
        refine ⟨?_, fun h => absurd h.symm Bool.false_ne_true, fun _ => ?_⟩
        · have hsome : naming.extractor.parameters text ≠ [] := by
            intro hnil
            rw [Extractor.extract_eq_none_iff.mpr hnil] at htext
            contradiction
          simpa using hsome
        · refine ⟨signature, _, rfl, rfl, fun _ => naming.key_of_mem_records className,
            fun key => ?_⟩
          rw [OverloadCounter.count_next]
          simp only [eq_comm]
  · intro progress texts texts' hsame later later'
    have hlater : later = _ := naming.takeRows_eq className progress texts
    have hlater' : later' = _ := naming.takeRows_eq className progress texts'
    rw [hlater, hlater']
    refine ⟨fun key => ?_, fun key => ?_, ?_⟩
    · rw [List.filter_append, List.filter_append, naming.filter_rows, naming.filter_rows,
        hsame key]
    · rw [naming.count_rows, naming.count_rows, hsame key]
    · rw [Bool.eq_iff_iff, naming.isEmpty_rows, naming.isEmpty_rows,
        naming.signatures_eq_nil_iff, naming.signatures_eq_nil_iff]
      simp only [hsame]

namespace Shuffled

def naming : Naming :=
  ⟨"com.robot".toList, .standard⟩

/-- Rows of two keys, and one without parameters. -/
def texts : List Text :=
  ["move(int dx)".toList, "clear()".toList, "turn(float angle)".toList,
    "move(float dy)".toList]

/-- The same rows of each key in another order, between other rows without parameters. -/
def texts' : List Text :=
  ["turn(float angle)".toList, "stop()".toList, "move(int dx)".toList,
    "move(float dy)".toList, "reset()".toList]

def move : MethodKey :=
  ⟨"move".toList, 1⟩

def turn : MethodKey :=
  ⟨"turn".toList, 1⟩

/-- Rows of any other key are in neither list. -/
theorem filter_eq_nil {key : MethodKey} (hmove : key ≠ move) (hturn : key ≠ turn)
    {rows : List Text} (hrows : ∀ text ∈ rows, text ∈ texts ++ texts') :
    rows.filter (naming.hasKey key) = [] := by
  have hkeys : ∀ text ∈ texts ++ texts',
      (naming.extractor.extract text).map Signature.key ∈ [none, some move, some turn] := by
    decide +kernel
  rw [List.filter_eq_nil_iff]
  intro text htext
  have hkey := hkeys text (hrows text htext)
  rw [Naming.hasKey, decide_eq_true_eq]
  intro heq
  simp_all

theorem filter_texts (key : MethodKey) :
    texts.filter (naming.hasKey key) = texts'.filter (naming.hasKey key) := by
  by_cases hmove : key = move
  · subst hmove
    decide +kernel
  by_cases hturn : key = turn
  · subst hturn
    decide +kernel
  rw [filter_eq_nil hmove hturn fun _ => List.mem_append_left _,
    filter_eq_nil hmove hturn fun _ => List.mem_append_right _]

end Shuffled

/-- Rows of two keys that stand the other way around, between other rows without parameters,
give the same records of each key. -/
theorem keys_do_not_interfere_shuffled :
    (∀ key, Shuffled.texts.filter (Shuffled.naming.hasKey key) =
      Shuffled.texts'.filter (Shuffled.naming.hasKey key)) ∧
    let start : Naming.Progress := ⟨.new, []⟩
    let later := Shuffled.naming.takeRows "Robot".toList start Shuffled.texts
    let later' := Shuffled.naming.takeRows "Robot".toList start Shuffled.texts'
    (∀ key, later.records.filter (·.key = key) = later'.records.filter (·.key = key)) ∧
    (∀ key, later.counter.count key = later'.counter.count key) ∧
    later.counter.isEmpty = later'.counter.isEmpty ∧ later.records ≠ later'.records := by
  obtain ⟨hrecords, hcount, hempty⟩ :=
    (keys_do_not_interfere Shuffled.naming "Robot".toList).2 ⟨.new, []⟩ _ _
      Shuffled.filter_texts
  exact ⟨Shuffled.filter_texts, hrecords, hcount, hempty, by decide +kernel⟩

end JavadocNames
