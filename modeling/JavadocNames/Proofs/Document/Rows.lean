import JavadocNames.Document

/-!
# The records of rows

The counter of overloads is a history: its count of a key is the number of times
that the key has been seen.  So the records of some rows are blocks, one for each
signature, and the overload index of a block is read off the signatures before it.
Neither the other rows nor the order in which keys alternate have a part in it.
-/

namespace JavadocNames

namespace OverloadCounter

@[simp] theorem count_new (key : MethodKey) : new.count key = 0 := rfl

/-- Raising a key leaves the counts of all other keys as they are. -/
theorem countIn_raise (key k : MethodKey) (tally : List (MethodKey × Nat)) :
    countIn k (raise key tally) = countIn k tally + if key = k then 1 else 0 := by
  induction tally with
  | nil => simp [raise, countIn]
  | cons entry rest ih =>
      obtain ⟨listed, n⟩ := entry
      by_cases hlisted : listed = key
      · simp only [raise, countIn, if_pos hlisted]
        by_cases hk : listed = k
        · rw [if_pos hk, if_pos hk, if_pos (hlisted.symm.trans hk)]
        · rw [if_neg hk, if_neg hk, if_neg (fun h => hk (hlisted.trans h)), Nat.add_zero]
      · simp only [raise, countIn, if_neg hlisted, ih]
        by_cases hk : listed = k
        · rw [if_pos hk, if_pos hk, if_neg (fun h => hlisted (hk.trans h.symm)), Nat.add_zero]
        · rw [if_neg hk, if_neg hk]

@[simp] theorem next_fst (counter : OverloadCounter) (key : MethodKey) :
    (counter.next key).1 = counter.count key + 1 := rfl

/-- A key that is seen counts once more, and no other key does. -/
@[simp] theorem count_next (counter : OverloadCounter) (key k : MethodKey) :
    (counter.next key).2.count k = counter.count k + if key = k then 1 else 0 :=
  countIn_raise key k counter.tally

end OverloadCounter

/-- What tells a signature apart from those of other names or lengths. -/
def Signature.key (signature : Signature) : MethodKey :=
  ⟨signature.name, signature.arity⟩

namespace Extractor

/-- The signatures of the rows that have one, in order. -/
def signatures (extractor : Extractor) (texts : List Text) : List Signature :=
  texts.filterMap extractor.extract

theorem signatures_cons_none {extractor : Extractor} {text : Text} (rest : List Text)
    (h : extractor.extract text = none) :
    extractor.signatures (text :: rest) = extractor.signatures rest := by
  simp [signatures, h]

theorem signatures_cons_some {extractor : Extractor} {text : Text} {signature : Signature}
    (rest : List Text) (h : extractor.extract text = some signature) :
    extractor.signatures (text :: rest) = signature :: extractor.signatures rest := by
  simp [signatures, h]

/-- A signature that is found has a parameter. -/
theorem parameters_ne_nil_of_extract {extractor : Extractor} {text : Text}
    {signature : Signature} (h : extractor.extract text = some signature) :
    signature.parameters ≠ [] := by
  unfold extract at h
  split at h
  · contradiction
  · obtain rfl := Option.some.inj h
    exact List.cons_ne_nil _ _

theorem parameters_ne_nil_of_mem_signatures {extractor : Extractor} {texts : List Text}
    {signature : Signature} (h : signature ∈ extractor.signatures texts) :
    signature.parameters ≠ [] := by
  obtain ⟨text, -, htext⟩ := List.mem_filterMap.mp h
  exact parameters_ne_nil_of_extract htext

end Extractor

namespace Tally

theorem mk_add_mk (rows skipped records rows' skipped' records' : Nat) :
    Tally.mk rows skipped records + ⟨rows', skipped', records'⟩ =
      ⟨rows + rows', skipped + skipped', records + records'⟩ := rfl

end Tally

namespace Naming

/-- The records of signatures in order, when the keys have been seen as often as
the counter tells. -/
def blocks (naming : Naming) (className : Text) (counter : OverloadCounter)
    (signatures : List Signature) : List (List NamingRecord) :=
  signatures.mapIdx fun i signature =>
    naming.records className signature
      (counter.count signature.key + 1 +
        (signatures.take i).countP (·.key = signature.key))

theorem blocks_cons (naming : Naming) (className : Text) (counter : OverloadCounter)
    (signature : Signature) (rest : List Signature) :
    naming.blocks className counter (signature :: rest) =
      naming.records className signature (counter.count signature.key + 1) ::
        naming.blocks className (counter.next signature.key).2 rest := by
  simp only [blocks, List.mapIdx_cons, List.take_zero, List.countP_nil, Nat.add_zero,
    List.take_succ_cons, List.countP_cons, OverloadCounter.count_next]
  congr 2
  funext i later
  congr 1
  -- The counter has seen the first signature, which is no longer among the earlier ones.
  by_cases hkey : signature.key = later.key
  · simp [hkey]
    omega
  · simp [hkey]

/-- The block of a further signature comes last. -/
theorem blocks_concat (naming : Naming) (className : Text) (counter : OverloadCounter)
    (signatures : List Signature) (signature : Signature) :
    naming.blocks className counter (signatures ++ [signature]) =
      naming.blocks className counter signatures ++
        [naming.records className signature (counter.count signature.key + 1 +
          signatures.countP (·.key = signature.key))] := by
  rw [blocks, List.mapIdx_concat, List.take_left, blocks]
  congr 1
  rw [List.mapIdx_eq_mapIdx_iff]
  intro i hi
  rw [List.take_append_of_le_length (Nat.le_of_lt hi)]

/-- There is one record for each parameter. -/
theorem length_flatten_blocks (naming : Naming) (className : Text)
    (counter : OverloadCounter) (signatures : List Signature) :
    (naming.blocks className counter signatures).flatten.length =
      (signatures.flatMap Signature.parameters).length := by
  induction signatures generalizing counter with
  | nil => rfl
  | cons signature rest ih =>
      rw [blocks_cons, List.flatten_cons, List.length_append, ih, List.flatMap_cons,
        List.length_append, records, List.length_mapIdx]

/-- Signatures without parameters have no records and do not change those of others. -/
theorem flatten_blocks_filter (naming : Naming) (className : Text)
    {counter counter' : OverloadCounter}
    (h : ∀ key : MethodKey, key.arity ≠ 0 → counter.count key = counter'.count key)
    (signatures : List Signature) :
    (naming.blocks className counter
        (signatures.filter fun signature => signature.parameters ≠ [])).flatten =
      (naming.blocks className counter' signatures).flatten := by
  induction signatures generalizing counter counter' with
  | nil => rfl
  | cons signature rest ih =>
      rw [blocks_cons, List.flatten_cons]
      by_cases hnone : signature.parameters = []
      · -- Only one counter sees the signature, but its key has no parameters.
        have hcount : ∀ key : MethodKey, key.arity ≠ 0 →
            counter.count key = (counter'.next signature.key).2.count key := by
          intro key hkey
          have hne : signature.key ≠ key := by
            rintro rfl
            apply hkey
            rw [Signature.key, Signature.arity, hnone]
            rfl
          rw [OverloadCounter.count_next, if_neg hne, h key hkey, Nat.add_zero]
        have hrecords : ∀ overload, naming.records className signature overload = [] := by
          intro overload
          rw [records, hnone, List.mapIdx_nil]
        rw [List.filter_cons_of_neg (by simpa using hnone), hrecords, List.nil_append]
        exact ih hcount
      · have harity : signature.key.arity ≠ 0 := by
          intro hzero
          exact hnone (List.length_eq_zero_iff.mp hzero)
        have hcount : ∀ key : MethodKey, key.arity ≠ 0 →
            (counter.next signature.key).2.count key =
              (counter'.next signature.key).2.count key := by
          intro key hkey
          rw [OverloadCounter.count_next, OverloadCounter.count_next, h key hkey]
        rw [List.filter_cons_of_pos (by simpa using hnone), blocks_cons, List.flatten_cons,
          h _ harity, ih hcount]

/-- The records of rows are the blocks of their signatures. -/
theorem rows_records (naming : Naming) (className : Text) (counter : OverloadCounter)
    (texts : List Text) :
    (naming.rows className counter texts).1 =
      (naming.blocks className counter (naming.extractor.signatures texts)).flatten := by
  induction texts generalizing counter with
  | nil => rfl
  | cons text rest ih =>
      cases htext : naming.extractor.extract text with
      | none =>
          rw [Extractor.signatures_cons_none rest htext, ← ih counter]
          simp [rows, row?, htext]
      | some signature =>
          rw [Extractor.signatures_cons_some rest htext, blocks_cons, List.flatten_cons,
            ← ih]
          simp [rows, row?, htext, Signature.key]

/-- Every row counts, those without a signature also as skipped. -/
theorem rows_tally (naming : Naming) (className : Text) (counter : OverloadCounter)
    (texts : List Text) :
    (naming.rows className counter texts).2.1 =
      ⟨texts.length, texts.countP fun text => (naming.extractor.extract text).isNone,
        (naming.rows className counter texts).1.length⟩ := by
  induction texts generalizing counter with
  | nil => rfl
  | cons text rest ih =>
      cases htext : naming.extractor.extract text with
      | none =>
          simp [rows, row?, htext, ih counter, Tally.ofRow, Tally.mk_add_mk, Nat.add_comm]
      | some signature =>
          simp [rows, row?, htext, ih, Tally.ofRow, Tally.mk_add_mk, Nat.add_comm]

end Naming

end JavadocNames
