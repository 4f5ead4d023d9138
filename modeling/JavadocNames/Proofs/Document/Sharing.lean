import JavadocNames.Proofs.Document.Keys

/-!
# Documents that share a counter

A counter that has seen keys before moves the overload indices of a page and does nothing
else: the index of each record grows by the count of its key.  So pages that are read one
after the other with one counter give the records of all their rows, and the methods of a
key are counted from one page to the next.  With a counter of its own, each page counts
from one.
-/

namespace JavadocNames

theorem map_mapIdx {α β γ : Type} (f : β → γ) (g : Nat → α → β) (items : List α) :
    (items.mapIdx g).map f = items.mapIdx fun i item => f (g i item) := by
  apply List.ext_getElem
  · simp
  · intro i hi hi'
    simp

namespace NamingRecord

/-- The record on a page that is read when the counter has seen keys already. -/
def shifted (counter : OverloadCounter) (record : NamingRecord) : NamingRecord :=
  { record with overload := record.overload + counter.count record.key }

/-- Overload index and position of each record of a key, in order. -/
def placesOf (key : MethodKey) (records : List NamingRecord) : List (Nat × Nat) :=
  (records.filter (·.key = key)).map fun record => (record.overload, record.position)

theorem placesOf_append (key : MethodKey) (records others : List NamingRecord) :
    placesOf key (records ++ others) = placesOf key records ++ placesOf key others := by
  rw [placesOf, List.filter_append, List.map_append, placesOf, placesOf]

end NamingRecord

/-- The places of the parameters of `many` methods of a key, which are counted from
`first`. -/
def MethodKey.places (key : MethodKey) (first many : Nat) : List (Nat × Nat) :=
  (List.range' first many).flatMap fun overload =>
    (List.range' 1 key.arity).map fun position => (overload, position)

theorem MethodKey.places_append (key : MethodKey) (first many more : Nat) :
    key.places first many ++ key.places (first + many) more =
      key.places first (many + more) := by
  rw [places, places, places, ← List.flatMap_append, List.range'_append_1]

namespace Naming

variable (naming : Naming) (className : Text)

/-! ## The records of a page -/

theorem records_add (signature : Signature) (overload more : Nat) :
    naming.records className signature (overload + more) =
      (naming.records className signature overload).map fun record =>
        { record with overload := record.overload + more } := by
  rw [records, records, map_mapIdx]

/-- A key that has been seen before is counted on from there. -/
theorem flatten_blocks_shift (counter : OverloadCounter) (signatures : List Signature) :
    (naming.blocks className counter signatures).flatten =
      (naming.blocks className .new signatures).flatten.map (·.shifted counter) := by
  rw [blocks, blocks, List.map_flatten, map_mapIdx]
  congr 2
  funext i signature
  have hcount : counter.count signature.key + 1 +
      (signatures.take i).countP (·.key = signature.key) =
        OverloadCounter.new.count signature.key + 1 +
          (signatures.take i).countP (·.key = signature.key) +
            counter.count signature.key := by
    rw [OverloadCounter.count_new]
    omega
  rw [hcount, records_add]
  refine List.map_congr_left fun record hrecord => ?_
  rw [NamingRecord.shifted, naming.key_of_mem_records className hrecord]

theorem rows_shift (counter : OverloadCounter) (texts : List Text) :
    (naming.rows className counter texts).1 =
      (naming.rows className .new texts).1.map (·.shifted counter) := by
  rw [rows_records, rows_records, flatten_blocks_shift]

theorem map_places_records (signature : Signature) (overload : Nat) :
    ((naming.records className signature overload).map fun record =>
        (record.overload, record.position)) =
      (List.range' 1 signature.arity).map fun position => (overload, position) := by
  apply List.ext_getElem
  · simp [records, Signature.arity]
  · intro i hi hi'
    simp [records, Nat.add_comm]

/-- The methods of a key are counted on from what the counter tells, without a gap. -/
theorem placesOf_blocks (counter : OverloadCounter) (signatures : List Signature)
    (key : MethodKey) :
    NamingRecord.placesOf key (naming.blocks className counter signatures).flatten =
      key.places (counter.count key + 1) (signatures.countP (·.key = key)) := by
  induction signatures generalizing counter with
  | nil => rfl
  | cons signature rest ih =>
      rw [blocks_cons, List.flatten_cons, NamingRecord.placesOf_append, ih,
        NamingRecord.placesOf, filter_records, OverloadCounter.count_next, List.countP_cons]
      by_cases hkey : signature.key = key
      · have hfirst : ((naming.records className signature
            (counter.count signature.key + 1)).map fun record =>
              (record.overload, record.position)) = key.places (counter.count key + 1) 1 := by
          rw [map_places_records, ← hkey]
          simp [MethodKey.places, Signature.key]
        rw [if_pos hkey, if_pos hkey, hfirst, MethodKey.places_append, Nat.add_comm 1]
        simp [hkey]
      · rw [if_neg hkey, if_neg hkey, List.map_nil, List.nil_append, Nat.add_zero]
        simp [hkey]

/-- The keys of the rows of a page that have a signature, in order. -/
def keysOf (page : Page) : List MethodKey :=
  (naming.extractor.signatures (pageRows page)).map Signature.key

theorem placesOf_page (counter : OverloadCounter) (page : Page) (key : MethodKey) :
    NamingRecord.placesOf key (naming.page className counter page).1 =
      key.places (counter.count key + 1) ((naming.keysOf page).count key) := by
  rw [Naming.page, rows_records, placesOf_blocks, keysOf, List.count, List.countP_map]
  rfl

theorem page_counter (counter : OverloadCounter) (page : Page) :
    (naming.page className counter page).2.2 = counter.after (naming.keysOf page) :=
  naming.rows_counter className counter (pageRows page)

/-! ## Pages one after the other -/

/-- Pages are read like their rows, put one after the other. -/
theorem foldl_takeRow_pages (documents : List (Text × Page)) (progress : Progress) :
    (documents.flatMap fun (className, page) =>
        (pageRows page).map fun text => (className, text)).foldl
      (fun progress (className, text) => (naming.takeRow className progress text).2) progress =
      ⟨(naming.pages progress.counter documents).2,
        progress.records ++ (naming.pages progress.counter documents).1.flatMap (·.1)⟩ := by
  induction documents generalizing progress with
  | nil => simp [pages]
  | cons document rest ih =>
      obtain ⟨className, page⟩ := document
      rw [List.flatMap_cons, List.foldl_append, List.foldl_map, ih]
      have hrows : (pageRows page).foldl
          (fun progress text => (naming.takeRow className progress text).2) progress = _ :=
        naming.takeRows_eq className progress (pageRows page)
      rw [hrows]
      simp [pages, Naming.page]

/-- Over all pages the methods of a key are counted on, without a gap. -/
theorem placesOf_pages (documents : List (Text × Page)) (counter : OverloadCounter)
    (key : MethodKey) :
    NamingRecord.placesOf key ((naming.pages counter documents).1.flatMap (·.1)) =
      key.places (counter.count key + 1)
        ((documents.flatMap fun document => naming.keysOf document.2).count key) := by
  induction documents generalizing counter with
  | nil => rfl
  | cons document rest ih =>
      obtain ⟨className, page⟩ := document
      have hcounter := naming.page_counter className counter page
      change NamingRecord.placesOf key ((naming.page className counter page).1 ++
        (naming.pages (naming.page className counter page).2.2 rest).1.flatMap (·.1)) = _
      rw [NamingRecord.placesOf_append, placesOf_page, ih, hcounter,
        OverloadCounter.count_after, List.flatMap_cons, List.count_append,
        Nat.add_right_comm, MethodKey.places_append]

end Naming

/-- A counter that is shared by pages shifts overload indices and does nothing else.  A page
that is read with a counter has the counts and, but for the overload indices, the records
that it has with a new one; the index of a record is greater by the count of its key, and
each key is counted once for every row that has it.  Pages read one after the other with one
counter give the records of all their rows, and over all of them the methods of a key are
counted on without a gap or a repetition, each with all its positions; with a new counter
for each page they are counted from one on each page. -/
theorem shared_counter_shifts (naming : Naming) (counter : OverloadCounter) :
    (∀ (className : Text) (page : Page),
      let fresh := naming.page className .new page
      let shared := naming.page className counter page
      shared.1 = fresh.1.map (fun record =>
        { record with overload :=
            record.overload + counter.count ⟨record.method, record.total⟩ }) ∧
      shared.2.1 = fresh.2.1 ∧
      (∀ key, shared.2.2.count key = counter.count key + (naming.keysOf page).count key) ∧
      (shared.2.2.isEmpty = true ↔ counter.isEmpty = true ∧ naming.keysOf page = [])) ∧
    ∀ documents : List (Text × Page),
      let shared := naming.pages counter documents
      let records := shared.1.flatMap (·.1)
      let rows := documents.flatMap fun (className, page) =>
        (Naming.pageRows page).map fun text => (className, text)
      records = (rows.foldl (fun progress (className, text) =>
        (naming.takeRow className progress text).2) ⟨counter, []⟩).records ∧
      (∀ key, NamingRecord.placesOf key records = key.places (counter.count key + 1)
        ((documents.flatMap fun document => naming.keysOf document.2).count key)) ∧
      ∀ document ∈ documents, ∀ key,
        NamingRecord.placesOf key (naming.page document.1 .new document.2).1 =
          key.places 1 ((naming.keysOf document.2).count key) := by
  constructor
  · intro className page fresh shared
    have hrecords : shared.1 = fresh.1.map (·.shifted counter) :=
      naming.rows_shift className counter (Naming.pageRows page)
    have htally : shared.2.1 = fresh.2.1 := by
      have hlength : shared.1.length = fresh.1.length := by rw [hrecords, List.length_map]
      have hshared : shared.2.1 = ⟨_, _, shared.1.length⟩ :=
        naming.rows_tally className counter (Naming.pageRows page)
      have hfresh : fresh.2.1 = ⟨_, _, fresh.1.length⟩ :=
        naming.rows_tally className .new (Naming.pageRows page)
      rw [hshared, hfresh, hlength]
    have hcounter : shared.2.2 = counter.after (naming.keysOf page) :=
      naming.page_counter className counter page
    refine ⟨hrecords, htally, fun key => ?_, ?_⟩
    · rw [hcounter, OverloadCounter.count_after]
    · rw [hcounter, OverloadCounter.isEmpty_after, Bool.and_eq_true, List.isEmpty_iff]
  · intro documents shared records rows
    refine ⟨?_, fun key => naming.placesOf_pages documents counter key, ?_⟩
    · have hrows := naming.foldl_takeRow_pages documents ⟨counter, []⟩
      exact (congrArg Naming.Progress.records hrows).symm
    · intro document _ key
      exact naming.placesOf_page document.1 .new document.2 key

end JavadocNames
