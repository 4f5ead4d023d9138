import JavadocNames.Proofs.Record.JsonReading
import JavadocNames.Proofs.Run.Writing

/-!
# Records from lines of JSON

A record is written as an object of seven fields, and an object holds no control
character, so every record is one line.  Reading the lines gives back the records, and
so different lists of records are never written by the same bytes.
-/

namespace JavadocNames

namespace Json

/-! ## No control characters -/

/-- No character is a control character below U+0020. -/
def IsPlain (text : Text) : Prop :=
  ∀ c ∈ text, 0x20 ≤ c.toNat

instance (text : Text) : Decidable (IsPlain text) :=
  List.decidableBAll (fun c : Char => 0x20 ≤ c.toNat) text

theorem IsPlain.append {front back : Text} (hfront : IsPlain front) (hback : IsPlain back) :
    IsPlain (front ++ back) := fun c hc =>
  (List.mem_append.mp hc).elim (hfront c) (hback c)

theorem IsPlain.cons {c : Char} {text : Text} (hc : 0x20 ≤ c.toNat) (htext : IsPlain text) :
    IsPlain (c :: text) := by
  intro d hd
  rcases List.mem_cons.mp hd with rfl | hd
  · exact hc
  · exact htext d hd

theorem isPlain_nil : IsPlain [] := fun _ hc => absurd hc List.not_mem_nil

theorem isPlain_escape (c : Char) : IsPlain (escape c) := by
  unfold escape
  iterate 7
    split
    · decide
  split
  · rename_i hcontrol
    have hall : ∀ n < 0x20,
        IsPlain ['\\', 'u', '0', '0', hexDigit (n / 16), hexDigit (n % 16)] := by decide
    exact hall c.toNat hcontrol
  · rename_i hcontrol
    exact isPlain_nil.cons (Nat.le_of_not_lt hcontrol)

theorem isPlain_quoted (text : Text) : IsPlain (quoted text) := by
  have hcontents : IsPlain (text.flatMap escape) := by
    intro d hd
    obtain ⟨c, -, hd⟩ := List.mem_flatMap.mp hd
    exact isPlain_escape c d hd
  have hquote : IsPlain ['"'] := by decide
  exact (hcontents.append hquote).cons (by decide)

theorem Value.isPlain_written (v : Value) : IsPlain v.written := by
  cases v with
  | string text => exact isPlain_quoted text
  | number n =>
      intro d hd
      have hdigit := Text.isDigit_of_mem_decimal hd
      rw [Char.isDigit, Bool.and_eq_true, decide_eq_true_eq] at hdigit
      exact Nat.le_trans (by decide) (UInt32.le_iff_toNat_le.mp hdigit.1)

theorem isPlain_writtenField (f : Text × Value) : IsPlain (writtenField f) :=
  (isPlain_quoted f.1).append (f.2.isPlain_written.cons (by decide))

theorem isPlain_join {texts : List Text} (h : ∀ text ∈ texts, IsPlain text) :
    IsPlain (Text.join [','] texts) := by
  induction texts with
  | nil => exact isPlain_nil
  | cons text rest ih =>
      have hrest := ih fun other hother => h other (List.mem_cons_of_mem text hother)
      cases rest with
      | nil => simpa [Text.join] using h text List.mem_cons_self
      | cons other rest =>
          have hcomma : IsPlain [','] := by decide
          rw [Text.join, List.intercalate_cons_cons]
          exact ((h text List.mem_cons_self).append hcomma).append hrest

theorem isPlain_object (fields : List (Text × Value)) :
    IsPlain (object (fields.map writtenField)) := by
  have hfields : IsPlain (Text.join [','] (fields.map writtenField)) := by
    refine isPlain_join fun text htext => ?_
    obtain ⟨f, -, rfl⟩ := List.mem_map.mp htext
    exact isPlain_writtenField f
  have hclosing : IsPlain ['}'] := by decide
  exact (hfields.append hclosing).cons (by decide)

/-! ## Objects in lines -/

/-- The fields of the object on a line. -/
def line? (line : Bytes) : Option (List (Text × Value)) :=
  (Utf8.decode? line).bind object?

theorem line?_encode (text : Text) : line? (Utf8.encode text) = object? text := by
  rw [line?, Utf8.decode?_encode, Option.bind_some]

/-- The text in the field of a given name. -/
def textAt? (fields : List (Text × Value)) (name : Text) : Option Text :=
  match fields.lookup name with
  | some (.string text) => some text
  | _ => none

/-- The number in the field of a given name. -/
def numberAt? (fields : List (Text × Value)) (name : Text) : Option Nat :=
  match fields.lookup name with
  | some (.number n) => some n
  | _ => none

end Json

namespace NamingRecord

open Json (Value)

/-- The seven fields of a record. -/
def fields (r : NamingRecord) : List (Text × Value) :=
  [("package".toList, .string r.package),
    ("class".toList, .string r.className),
    ("method".toList, .string r.method),
    ("parameter".toList, .string r.parameter),
    ("position".toList, .number r.position),
    ("total".toList, .number r.total),
    ("overload".toList, .number r.overload)]

/-- The record with given fields, in any order; `none` when there are others. -/
def ofFields? (fields : List (Text × Value)) : Option NamingRecord :=
  if fields.length = 7 then do
    return {
      package := ← Json.textAt? fields "package".toList
      className := ← Json.textAt? fields "class".toList
      method := ← Json.textAt? fields "method".toList
      parameter := ← Json.textAt? fields "parameter".toList
      position := ← Json.numberAt? fields "position".toList
      total := ← Json.numberAt? fields "total".toList
      overload := ← Json.numberAt? fields "overload".toList }
  else none

/-- The record on a line. -/
def ofLine? (line : Bytes) : Option NamingRecord :=
  (Json.line? line).bind ofFields?

theorem jsonObject_eq (r : NamingRecord) :
    r.jsonObject = Json.object (r.fields.map Json.writtenField) := rfl

theorem ofFields?_fields (r : NamingRecord) : ofFields? r.fields = some r := rfl

theorem lineFeed_not_mem_jsonObject (r : NamingRecord) : '\n' ∉ r.jsonObject := by
  intro hmem
  have hplain := Json.isPlain_object r.fields '\n' hmem
  contradiction

theorem line?_jsonObject (r : NamingRecord) :
    Json.line? (Utf8.encode r.jsonObject) = some r.fields := by
  rw [Json.line?_encode, jsonObject_eq, Json.object?_object]

theorem ofLine?_jsonObject (r : NamingRecord) :
    ofLine? (Utf8.encode r.jsonObject) = some r := by
  rw [ofLine?, line?_jsonObject, Option.bind_some, ofFields?_fields]

theorem jsonObject_injective {r s : NamingRecord} (h : r.jsonObject = s.jsonObject) : r = s := by
  have hr := r.ofLine?_jsonObject
  rw [h, s.ofLine?_jsonObject] at hr
  exact (Option.some.inj hr).symm

end NamingRecord

/-- Records written as JSON are as many lines as records, none of them empty, behind which
nothing follows.  The object on a line has the seven fields of its record and no others,
the lines are read back as the records, and other records are never written by the same
bytes. -/
theorem json_lines_read_back (records : List NamingRecord) (journal : Journal) :
    ∃ (bytes : Bytes) (lines : List Bytes),
      (OutputFormat.json.writeRecords records).outcome journal = (bytes, .ok ()) ∧
      bytes.splitOn 0x0A = lines ++ [[]] ∧
      lines.length = records.length ∧ [] ∉ lines ∧
      lines.map Json.line? = records.map (some ·.fields) ∧
      lines.map NamingRecord.ofLine? = records.map some ∧
      ∀ (others : List NamingRecord) (otherJournal : Journal),
        ((OutputFormat.json.writeRecords others).outcome otherJournal).1 = bytes →
          others = records := by
  have hplain : ∀ rs : List NamingRecord,
      ∀ text ∈ rs.map OutputFormat.json.render, '\n' ∉ text := by
    intro rs text htext
    obtain ⟨r, -, rfl⟩ := List.mem_map.mp htext
    exact r.lineFeed_not_mem_jsonObject
  have hread : (records.map fun r => Utf8.encode r.jsonObject).map NamingRecord.ofLine? =
      records.map some := by
    rw [List.map_map]
    exact List.map_congr_left fun r _ => r.ofLine?_jsonObject
  refine ⟨Text.lineBytes (records.map OutputFormat.json.render),
    records.map fun r => Utf8.encode r.jsonObject,
    OutputFormat.json.outcome_writeRecords records journal, ?_, List.length_map _, ?_, ?_,
    hread, ?_⟩
  · rw [Text.splitOn_lineBytes (hplain records), List.map_map]
    rfl
  · intro hempty
    obtain ⟨r, -, hr⟩ := List.mem_map.mp hempty
    have hnone := r.line?_jsonObject
    rw [hr] at hnone
    contradiction
  · rw [List.map_map]
    exact List.map_congr_left fun r _ => r.line?_jsonObject
  · intro others otherJournal hbytes
    rw [OutputFormat.outcome_writeRecords] at hbytes
    have htexts := Text.eq_of_lineBytes_eq (hplain others) (hplain records) hbytes
    exact (List.map_inj_right fun _ _ => @NamingRecord.jsonObject_injective _ _).mp htexts

end JavadocNames
