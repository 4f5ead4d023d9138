import Mathlib.Data.List.Nodup
import JavadocNames.Proofs.Document.Rows

/-!
# Addresses of parameters

A record says where its parameter is: among the signatures with its method and its
number of parameters it names one by its overload index, and in that one a parameter
by its position.  On the signatures of a page every record leads to the parameter
that it names, and every parameter is named by exactly one record.
-/

namespace JavadocNames

/-- The item at a place that is counted from one. -/
def nth? {α : Type} (items : List α) : Nat → Option α
  | 0 => none
  | n + 1 => items[n]?

namespace NamingRecord

/-- The record may mean this signature, as far as method and number of parameters
tell. -/
def fits (record : NamingRecord) (signature : Signature) : Bool :=
  signature.name = record.method && signature.arity = record.total

/-- The parameter that a record leads to. -/
def resolve? (record : NamingRecord) (signatures : List Signature) : Option Parameter := do
  let signature ← nth? (signatures.filter record.fits) record.overload
  nth? signature.parameters record.position

/-- The place of the parameter that a record leads to: the index of its signature
and its position there, counted from one. -/
def target? (record : NamingRecord) (signatures : List Signature) : Option (Nat × Nat) := do
  let (signature, row) ←
    nth? (signatures.zipIdx.filter fun row => record.fits row.1) record.overload
  let _ ← nth? signature.parameters record.position
  return (row, record.position)

/-- What a record tells of the place of its parameter. -/
def address (record : NamingRecord) : Text × Nat × Nat × Nat :=
  (record.method, record.total, record.overload, record.position)

/-- Records with the same address lead to the same place. -/
theorem target?_eq_of_address (signatures : List Signature) {a b : NamingRecord}
    (h : a.address = b.address) : a.target? signatures = b.target? signatures := by
  simp only [address, Prod.mk.injEq] at h
  obtain ⟨hmethod, htotal, hoverload, hposition⟩ := h
  simp only [target?, fits, hmethod, htotal, hoverload, hposition]

end NamingRecord

/-- In a filtered list, an item that is kept stands behind the items before it that
are kept. -/
theorem getElem?_filter_countP_take {α : Type} (p : α → Bool) (items : List α) (i : Nat)
    {a : α} (ha : items[i]? = some a) (hp : p a = true) :
    (items.filter p)[(items.take i).countP p]? = some a := by
  obtain ⟨hi, hget⟩ := List.getElem?_eq_some_iff.mp ha
  have hsplit : items = items.take i ++ a :: items.drop (i + 1) := by
    rw [← hget, List.getElem_cons_drop, List.take_append_drop]
  have hkept : items.filter p =
      (items.take i).filter p ++ a :: (items.drop (i + 1)).filter p := by
    conv_lhs => rw [hsplit]
    rw [List.filter_append, List.filter_cons_of_pos hp]
  rw [hkept, List.countP_eq_length_filter, List.getElem?_append_right (Nat.le_refl _),
    Nat.sub_self, List.getElem?_cons_zero]

/-- The places of all parameters, signature by signature. -/
def parameterPlaces (signatures : List Signature) : List (Nat × Nat) :=
  (signatures.mapIdx fun i signature =>
    (List.range signature.arity).map fun k => (i, k + 1)).flatten

theorem mem_parameterPlaces_iff (signatures : List Signature) (i k : Nat) :
    (i, k) ∈ parameterPlaces signatures ↔
      ∃ signature, signatures[i]? = some signature ∧ 1 ≤ k ∧ k ≤ signature.arity := by
  simp only [parameterPlaces, List.mem_flatten, List.mem_mapIdx]
  constructor
  · rintro ⟨_, ⟨j, hj, rfl⟩, hmem⟩
    obtain ⟨position, hposition, heq⟩ := List.mem_map.mp hmem
    obtain ⟨rfl, rfl⟩ := Prod.mk.inj heq
    have hbound := List.mem_range.mp hposition
    exact ⟨signatures[j], List.getElem?_eq_getElem hj, by omega, by omega⟩
  · rintro ⟨signature, hget, hpos, hbound⟩
    obtain ⟨hi, rfl⟩ := List.getElem?_eq_some_iff.mp hget
    refine ⟨_, ⟨i, hi, rfl⟩, List.mem_map.mpr ⟨k - 1, List.mem_range.mpr (by omega), ?_⟩⟩
    rw [Nat.sub_add_cancel hpos]

/-- No parameter has two places. -/
theorem parameterPlaces_nodup (signatures : List Signature) :
    (parameterPlaces signatures).Nodup := by
  unfold parameterPlaces
  rw [List.nodup_flatten]
  constructor
  · intro block hblock
    obtain ⟨i, hi, rfl⟩ := List.mem_mapIdx.mp hblock
    exact List.nodup_range.map fun a b h => Nat.succ.inj (Prod.mk.inj h).2
  · -- Places of different signatures differ in the first number.
    rw [List.pairwise_iff_getElem]
    intro i j hi hj hij place hplace hother
    simp only [List.getElem_mapIdx, List.mem_map] at hplace hother
    obtain ⟨_, -, rfl⟩ := hplace
    obtain ⟨_, -, heq⟩ := hother
    exact absurd (Prod.mk.inj heq).1 (by omega)

/-! ## Where a record leads -/

namespace NamingRecord

/-- The record is the one of parameter `k` of signature `i`, both counted from zero. -/
structure Names (record : NamingRecord) (signatures : List Signature) (i k : Nat)
    (signature : Signature) (p : Parameter) : Prop where
  row : signatures[i]? = some signature
  item : signature.parameters[k]? = some p
  method : record.method = signature.name
  total : record.total = signature.arity
  overload : record.overload = (signatures.take i).countP (·.key = signature.key) + 1
  position : record.position = k + 1
  parameter : record.parameter = p.name

variable {record : NamingRecord} {signatures : List Signature} {i k : Nat}
  {signature : Signature} {p : Parameter}

theorem Names.fits_eq (h : record.Names signatures i k signature p) :
    record.fits = fun other => decide (other.key = signature.key) := by
  funext other
  simp [fits, Signature.key, h.method, h.total]

/-- The overload index picks the signature among those of its key. -/
theorem Names.nth?_filter (h : record.Names signatures i k signature p) :
    nth? (signatures.filter record.fits) record.overload = some signature := by
  rw [h.fits_eq, h.overload]
  exact getElem?_filter_countP_take _ signatures i h.row (by simp)

theorem Names.nth?_filter_zipIdx (h : record.Names signatures i k signature p) :
    nth? (signatures.zipIdx.filter fun row => record.fits row.1) record.overload =
      some (signature, i) := by
  have hrow : signatures.zipIdx[i]? = some (signature, i) := by
    simp [List.getElem?_zipIdx, h.row]
  -- The indices do not change which items are kept.
  have hcount : (signatures.zipIdx.take i).countP (fun row => record.fits row.1) =
      (signatures.take i).countP record.fits := by
    have hmap := List.countP_map (p := record.fits) (f := Prod.fst)
      (l := signatures.zipIdx.take i)
    rw [List.map_take, List.zipIdx_map_fst] at hmap
    exact hmap.symm
  have hfits : record.fits signature = true := by simp [h.fits_eq]
  have hkept := getElem?_filter_countP_take (fun row => record.fits row.1)
    signatures.zipIdx i hrow hfits
  rw [hcount, h.fits_eq] at hkept
  rw [h.overload, h.fits_eq]
  exact hkept

theorem Names.resolve?_eq (h : record.Names signatures i k signature p) :
    record.resolve? signatures = some p := by
  rw [resolve?, h.nth?_filter, h.position]
  exact h.item

theorem Names.target?_eq (h : record.Names signatures i k signature p) :
    record.target? signatures = some (i, k + 1) := by
  have hitem : nth? signature.parameters (k + 1) = some p := h.item
  simp [target?, h.nth?_filter_zipIdx, h.position, hitem]

end NamingRecord

/-! ## The records of signatures -/

namespace Naming

/-- Every record of the block of a signature is the record of one of its
parameters. -/
theorem names_of_records (naming : Naming) (className : Text) {signatures : List Signature}
    {i k : Nat} {signature : Signature} (hrow : signatures[i]? = some signature)
    {record : NamingRecord}
    (hrecord : (naming.records className signature
      ((signatures.take i).countP (·.key = signature.key) + 1))[k]? = some record) :
    ∃ p, record.Names signatures i k signature p := by
  rw [records, List.getElem?_mapIdx, Option.map_eq_some_iff] at hrecord
  obtain ⟨p, hp, rfl⟩ := hrecord
  exact ⟨p, hrow, hp, rfl, rfl, rfl, rfl, rfl⟩

theorem blocks_new (naming : Naming) (className : Text) (signatures : List Signature) :
    naming.blocks className .new signatures =
      signatures.mapIdx fun i signature => naming.records className signature
        ((signatures.take i).countP (·.key = signature.key) + 1) := by
  simp [blocks, Nat.add_comm]

/-- Every record of a page is the record of one of its parameters. -/
theorem exists_names_of_mem_blocks (naming : Naming) (className : Text)
    {signatures : List Signature} {record : NamingRecord}
    (h : record ∈ (naming.blocks className .new signatures).flatten) :
    ∃ i k signature p, record.Names signatures i k signature p := by
  rw [blocks_new, List.mem_flatten] at h
  obtain ⟨block, hblock, hrecord⟩ := h
  obtain ⟨i, hi, rfl⟩ := List.mem_mapIdx.mp hblock
  obtain ⟨k, hk⟩ := List.mem_iff_getElem?.mp hrecord
  obtain ⟨p, hp⟩ := names_of_records naming className (List.getElem?_eq_getElem hi) hk
  exact ⟨i, k, _, p, hp⟩

/-- The block of a signature leads to its parameters, in order. -/
theorem map_target?_records (naming : Naming) (className : Text)
    {signatures : List Signature} {i : Nat} {signature : Signature}
    (hrow : signatures[i]? = some signature) :
    (naming.records className signature
        ((signatures.take i).countP (·.key = signature.key) + 1)).map
        (·.target? signatures) =
      (List.range signature.arity).map fun k => some (i, k + 1) := by
  apply List.ext_getElem
  · simp [records, Signature.arity]
  · intro k hk _
    rw [List.length_map] at hk
    obtain ⟨p, hp⟩ := names_of_records naming className hrow (List.getElem?_eq_getElem hk)
    rw [List.getElem_map, hp.target?_eq, List.getElem_map, List.getElem_range]

/-- The records lead to the places of all parameters, in order. -/
theorem map_target?_blocks (naming : Naming) (className : Text)
    (signatures : List Signature) :
    (naming.blocks className .new signatures).flatten.map (·.target? signatures) =
      (parameterPlaces signatures).map some := by
  rw [blocks_new, parameterPlaces, List.map_flatten, List.map_flatten]
  congr 1
  apply List.ext_getElem
  · simp
  · intro i hi _
    have hrow : i < signatures.length := by simpa using hi
    simp only [List.getElem_map, List.getElem_mapIdx, List.map_map]
    exact map_target?_records naming className (List.getElem?_eq_getElem hrow)

end Naming

/-- Records address the parameters of signatures, each by the name of its method, the
number of its parameters, the overload among the signatures that share both, and its
position. -/
structure Addresses (package className : Text) (signatures : List Signature)
    (records : List NamingRecord) : Prop where
  /-- One block for each signature, and in it one record for each parameter. -/
  blocks : records =
    (signatures.mapIdx fun i signature => signature.parameters.mapIdx fun k p =>
      { package := package, className := className, method := signature.name,
        parameter := p.name, position := k + 1, total := signature.parameters.length,
        overload := 1 + (signatures.take i).countP fun earlier =>
          earlier.name = signature.name &&
            earlier.parameters.length = signature.parameters.length }).flatten
  /-- A record leads to the parameter that it names. -/
  resolves : ∀ record ∈ records,
    (record.resolve? signatures).map (·.name) = some record.parameter
  /-- Every parameter of every signature is addressed by exactly one record. -/
  covers : ∀ i signature, signatures[i]? = some signature →
    ∀ position, 1 ≤ position → position ≤ signature.parameters.length →
      records.countP (fun record => record.target? signatures = some (i, position)) = 1
  /-- No two records share an address. -/
  distinct : (records.map NamingRecord.address).Nodup

theorem blocks_addresses (naming : Naming) (className : Text)
    (signatures : List Signature) :
    Addresses naming.package className signatures
      (naming.blocks className .new signatures).flatten := by
  have htargets := naming.map_target?_blocks className signatures
  have hnodup : ((naming.blocks className .new signatures).flatten.map
      (·.target? signatures)).Nodup := by
    rw [htargets]
    exact (parameterPlaces_nodup signatures).map fun _ _ => Option.some.inj
  constructor
  case blocks =>
    simp only [Naming.blocks_new, Naming.records, Signature.arity, Signature.key,
      MethodKey.mk.injEq, Bool.decide_and, Nat.add_comm]
  case resolves =>
    intro record hrecord
    obtain ⟨i, k, signature, p, hnames⟩ :=
      naming.exists_names_of_mem_blocks className hrecord
    rw [hnames.resolve?_eq, hnames.parameter, Option.map_some]
  case covers =>
    intro i signature hrow position hpos hbound
    have hplace : (i, position) ∈ parameterPlaces signatures :=
      (mem_parameterPlaces_iff signatures i position).mpr ⟨signature, hrow, hpos, hbound⟩
    have hmem : some (i, position) ∈ (naming.blocks className .new signatures).flatten.map
        (·.target? signatures) := by
      rw [htargets]
      exact List.mem_map_of_mem hplace
    rw [← List.count_eq_one_of_mem hnodup hmem, List.count, List.countP_map]
    exact List.countP_congr fun record _ => by simp
  case distinct =>
    -- A target is a function of the address, so distinct targets have distinct addresses.
    apply List.Nodup.of_map (fun a =>
      (NamingRecord.mk [] [] a.1 [] a.2.2.2 a.2.1 a.2.2.1).target? signatures)
    rw [List.map_map]
    refine (congrArg List.Nodup (List.map_congr_left fun record _ => ?_)).mpr hnodup
    exact NamingRecord.target?_eq_of_address signatures rfl

/-- The records of a page address the parameters of its matched rows, and every row
counts: as a row, and as skipped or by its records. -/
theorem page_addresses (naming : Naming) (className : Text) (page : Page) :
    let texts := (Summary.constructors.cells page ++ Summary.methods.cells page).map
      fun cell => RowText.normalize cell.innerText
    let signatures := texts.filterMap naming.extractor.extract
    let (records, tally, _) := naming.page className .new page
    (∀ signature ∈ signatures, 1 ≤ signature.parameters.length) ∧
      Addresses naming.package className signatures records ∧
      tally.rows = texts.length ∧
      tally.skipped = (texts.countP fun text => (naming.extractor.extract text).isNone) ∧
      tally.records = records.length := by
  intro texts signatures
  change (∀ signature ∈ signatures, 1 ≤ signature.parameters.length) ∧
    Addresses naming.package className signatures (naming.rows className .new texts).1 ∧
    (naming.rows className .new texts).2.1.rows = _ ∧ _ ∧ _
  have hsignatures : ∀ signature ∈ signatures, 1 ≤ signature.parameters.length := by
    intro signature hsignature
    exact List.length_pos_of_ne_nil (Extractor.parameters_ne_nil_of_mem_signatures hsignature)
  have haddresses : Addresses naming.package className signatures
      (naming.rows className .new texts).1 := by
    rw [naming.rows_records]
    exact blocks_addresses naming className signatures
  have htally := naming.rows_tally className .new texts
  exact ⟨hsignatures, haddresses, congrArg Tally.rows htally, congrArg Tally.skipped htally,
    congrArg Tally.records htally⟩

end JavadocNames
