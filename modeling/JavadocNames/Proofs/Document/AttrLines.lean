import JavadocNames.Proofs.Document.Rows
import JavadocNames.Proofs.Record.AttrElement
import JavadocNames.Proofs.Run.Writing
import JavadocNames.Proofs.Signature.Excerpts

/-!
# The `attr` lines of a document

Whatever the rows of a page hold and whatever finds parameters in them, the methods of its
records have no parenthesis that opens, and neither methods nor parameters have a line feed.
So the records are written one a line, and the lines of one class tell its records.
-/

namespace JavadocNames

namespace Naming

/-- A record of some rows has its method and its parameter from one of them. -/
theorem exists_of_mem_rows {naming : Naming} {className : Text} {counter : OverloadCounter}
    {texts : List Text} {record : NamingRecord}
    (h : record ∈ (naming.rows className counter texts).1) :
    record.package = naming.package ∧ record.className = className ∧
      ∃ text ∈ texts, ∃ signature, naming.extractor.extract text = some signature ∧
        record.method = signature.name ∧ ∃ p ∈ signature.parameters, record.parameter = p.name := by
  rw [rows_records, List.mem_flatten] at h
  obtain ⟨block, hblock, hrecord⟩ := h
  obtain ⟨i, hi, rfl⟩ := List.mem_mapIdx.mp hblock
  obtain ⟨k, hk, rfl⟩ := List.mem_mapIdx.mp hrecord
  obtain ⟨text, htext, hextract⟩ := List.mem_filterMap.mp (List.getElem_mem hi)
  exact ⟨rfl, rfl, text, htext, _, hextract, rfl, _, List.getElem_mem hk, rfl⟩

end Naming

/-- A record of the given class whose element can be read. -/
structure NamingRecord.IsReadable (package className : Text) (r : NamingRecord) : Prop where
  package_eq : r.package = package
  className_eq : r.className = className
  method_parenthesis : '(' ∉ r.method
  method_lineFeed : '\n' ∉ r.method
  parameter_lineFeed : '\n' ∉ r.parameter

/-- All records of a page can be read. -/
theorem Naming.isReadable_of_mem_page {naming : Naming} {className : Text}
    {counter : OverloadCounter} {page : Page} {record : NamingRecord}
    (h : record ∈ (naming.page className counter page).1) :
    record.IsReadable naming.package className := by
  obtain ⟨hpackage, hclass, text, htext, signature, hextract, hmethod, p, hp, hparameter⟩ :=
    exists_of_mem_rows h
  obtain ⟨cell, -, rfl⟩ := List.mem_map.mp htext
  obtain ⟨hparenthesis, hname, hparameters⟩ := Extractor.plain_of_extract_normalize hextract
  exact ⟨hpackage, hclass, hmethod ▸ hparenthesis, hmethod ▸ hname, hparameter ▸ hparameters p hp⟩

namespace NamingRecord

variable {package className : Text} {records others : List NamingRecord}

theorem lineFeed_not_mem_render (hpackage : '\n' ∉ package) (hclass : '\n' ∉ className)
    (h : ∀ r ∈ records, r.IsReadable package className) :
    ∀ text ∈ records.map OutputFormat.attr.render, '\n' ∉ text := by
  intro text htext
  obtain ⟨r, hr, rfl⟩ := List.mem_map.mp htext
  have hreadable := h r hr
  exact lineFeed_not_mem_attrElement (hreadable.package_eq ▸ hpackage)
    (hreadable.className_eq ▸ hclass) hreadable.method_lineFeed hreadable.parameter_lineFeed

/-- Cut at the line feeds, the lines of readable records are their elements. -/
theorem splitOn_lineBytes (hpackage : '\n' ∉ package) (hclass : '\n' ∉ className)
    (h : ∀ r ∈ records, r.IsReadable package className) :
    (Text.lineBytes (records.map OutputFormat.attr.render)).splitOn 0x0A =
      records.map (fun r => Utf8.encode r.attrElement) ++ [[]] := by
  have hform : ∀ r, OutputFormat.attr.render r = r.attrElement := fun _ => rfl
  rw [Text.splitOn_lineBytes (lineFeed_not_mem_render hpackage hclass h), List.map_map]
  simp only [Function.comp_def, hform]

/-- Readable records of one class are told by their elements. -/
theorem eq_of_map_render_eq (hrecords : ∀ r ∈ records, r.IsReadable package className)
    (hothers : ∀ r ∈ others, r.IsReadable package className)
    (h : records.map OutputFormat.attr.render = others.map OutputFormat.attr.render) :
    records = others := by
  induction records generalizing others with
  | nil => exact (List.map_eq_nil_iff.mp h.symm).symm
  | cons r records ih =>
      cases others with
      | nil => contradiction
      | cons s others =>
          obtain ⟨hfirst, hrest⟩ := List.cons.inj h
          have hr := hrecords r List.mem_cons_self
          have hs := hothers s List.mem_cons_self
          have hsame : r = s := eq_of_attrElement_eq (hr.package_eq.trans hs.package_eq.symm)
            (hr.className_eq.trans hs.className_eq.symm) hr.method_parenthesis
            hs.method_parenthesis hfirst
          rw [hsame, ih (fun other hother => hrecords other (List.mem_cons_of_mem r hother))
            (fun other hother => hothers other (List.mem_cons_of_mem s hother)) hrest]

end NamingRecord

/-- The records of a page of one class are written as lines, one for each record and as many
as the page counts records.  Pages of the same class whose lines are equal have the same
records, whatever finds their parameters and whatever counters they are read with. -/
theorem attr_lines_tell_records (package className : Text) (hpackage : '\n' ∉ package)
    (hclass : '\n' ∉ className) (extractor : Extractor) (counter : OverloadCounter)
    (page : Page) (journal : Journal) :
    let naming : Naming := ⟨package, extractor⟩
    let records := (naming.page className counter page).1
    let tally := (naming.page className counter page).2.1
    ∃ bytes : Bytes,
      (OutputFormat.attr.writeRecords records).outcome journal = (bytes, .ok ()) ∧
      bytes.splitOn 0x0A = records.map (fun r => Utf8.encode r.attrElement) ++ [[]] ∧
      bytes.count 0x0A = records.length ∧
      tally.records = bytes.count 0x0A ∧
      (∀ r ∈ records, r.IsReadable package className) ∧
      ∀ (otherExtractor : Extractor) (otherCounter : OverloadCounter) (otherPage : Page)
        (otherJournal : Journal),
        let other : Naming := ⟨package, otherExtractor⟩
        let others := (other.page className otherCounter otherPage).1
        ((OutputFormat.attr.writeRecords others).outcome otherJournal).1 = bytes →
          others = records := by
  intro naming records tally
  have hreadable : ∀ r ∈ records, r.IsReadable package className :=
    fun r hr => Naming.isReadable_of_mem_page hr
  have hlines := NamingRecord.lineFeed_not_mem_render hpackage hclass hreadable
  have hcount := Text.count_lineBytes hlines
  rw [List.length_map] at hcount
  have htally : tally.records = records.length :=
    congrArg Tally.records (naming.rows_tally className counter (Naming.pageRows page))
  refine ⟨Text.lineBytes (records.map OutputFormat.attr.render),
    OutputFormat.attr.outcome_writeRecords records journal,
    NamingRecord.splitOn_lineBytes hpackage hclass hreadable, hcount, htally.trans hcount.symm,
    hreadable, ?_⟩
  intro otherExtractor otherCounter otherPage otherJournal other others hbytes
  rw [OutputFormat.outcome_writeRecords] at hbytes
  have hothers : ∀ r ∈ others, r.IsReadable package className :=
    fun r hr => Naming.isReadable_of_mem_page hr
  have htexts := Text.eq_of_lineBytes_eq
    (NamingRecord.lineFeed_not_mem_render hpackage hclass hothers) hlines hbytes
  exact NamingRecord.eq_of_map_render_eq hothers hreadable htexts

/-! ## A row that looks like an element -/

namespace Mimicry

/-- A pattern whose parameter is all that stands behind the first parenthesis. -/
def extractor : Extractor :=
  .matching (.sequence (.group 3 (.one (.single '(')))
    (.group 4 (.repeated true 1 none (.one .any))))

/-- A page with one method, whose row holds pieces of an `attr` element. -/
def page : Page :=
  ⟨.element 0 "a" [("name", "method_summary")] .nil
    (.element 1 "table" []
      (.element 2 "tr" [] .nil
        (.element 3 "tr" []
          (.element 4 "td" [("class", "colLast")]
            (.element 5 "code" []
              (.text "x' and count[@name=\"<&\"](1][2]/parameter\">a</attr>\n".toList .nil) .nil)
            .nil)
          .nil))
      .nil), by decide⟩

def record : NamingRecord where
  package := "com.robot".toList
  className := "Robot".toList
  method := "x' and count[@name=\"<&\"]".toList
  parameter := "1][2]/parameter\">a</attr> ".toList
  position := 1
  total := 1
  overload := 1

end Mimicry

/-- A record that holds pieces of an element is still told by its line. -/
theorem attr_lines_tell_records_mimicry :
    '\n' ∉ "com.robot".toList ∧ '\n' ∉ "Robot".toList ∧
      let naming : Naming := ⟨"com.robot".toList, Mimicry.extractor⟩
      (naming.page "Robot".toList .new Mimicry.page).1 = [Mimicry.record] ∧
        ∃ bytes : Bytes,
          (OutputFormat.attr.writeRecords
            (naming.page "Robot".toList .new Mimicry.page).1).outcome .disabled =
              (bytes, .ok ()) ∧
          bytes.count 0x0A = 1 ∧
          ∀ (extractor : Extractor) (counter : OverloadCounter) (page : Page) (journal : Journal),
            let other : Naming := ⟨"com.robot".toList, extractor⟩
            let others := (other.page "Robot".toList counter page).1
            ((OutputFormat.attr.writeRecords others).outcome journal).1 = bytes →
              others = [Mimicry.record] := by
  have hpackage : '\n' ∉ "com.robot".toList := by decide
  have hclass : '\n' ∉ "Robot".toList := by decide
  have hrecords : (Naming.page ⟨"com.robot".toList, Mimicry.extractor⟩ "Robot".toList .new
      Mimicry.page).1 = [Mimicry.record] := by decide +kernel
  obtain ⟨bytes, houtcome, -, hcount, -, -, hothers⟩ :=
    attr_lines_tell_records "com.robot".toList "Robot".toList hpackage hclass Mimicry.extractor
      .new Mimicry.page .disabled
  have hlength := congrArg List.length hrecords
  refine ⟨hpackage, hclass, hrecords, bytes, houtcome, hcount.trans hlength, ?_⟩
  intro extractor counter page journal other others hbytes
  exact (hothers extractor counter page journal hbytes).trans hrecords

end JavadocNames
