import JavadocNames.Proofs.Signature.RowText
import JavadocNames.Signature.Extraction
import Mathlib.Data.List.TakeWhile

/-!
# What a signature is cut from

Whatever the pattern, the name of a signature is what precedes the first parenthesis of
its row, and types and names of parameters are excerpts of the row.  So a signature has
no character that its row does not have, and its name has no parenthesis that opens.
-/

namespace JavadocNames

theorem Text.not_mem_before (stop : Char) (text : Text) : stop ∉ before stop text := by
  intro hmem
  have hkept := List.mem_takeWhile_imp hmem
  simp at hkept

/-- No line feed is left in row text. -/
theorem RowText.lineFeed_not_mem_normalize (text : Text) : '\n' ∉ normalize text := by
  rw [normalize_eq, joined, Text.replace_single]
  intro hmem
  obtain ⟨c, -, hc⟩ := List.mem_map.mp hmem
  split at hc
  · exact absurd hc (by decide)
  · contradiction

namespace Extractor

variable {extractor : Extractor} {text : Text}

theorem infix_of_mem_parameters {p : Parameter} (h : p ∈ extractor.parameters text) :
    p.typeName <:+: text ∧ p.name <:+: text := by
  obtain ⟨captures, hcaptures, hp⟩ := List.mem_filterMap.mp h
  simp only [Captures.parameter?, Option.bind_eq_bind, Option.bind_eq_some_iff] at hp
  obtain ⟨typeName, htype, name, hname, hp⟩ := hp
  obtain rfl := Option.some.inj hp
  exact ⟨extractor.infix_of_mem text captures hcaptures typeName (.inl htype),
    extractor.infix_of_mem text captures hcaptures name (.inr hname)⟩

/-- The signature of a row is its name in front of the first parenthesis and the
parameters found in it. -/
theorem extract_eq_some_iff {signature : Signature} :
    extractor.extract text = some signature ↔
      extractor.parameters text ≠ [] ∧
        signature = ⟨Text.before '(' text, extractor.parameters text⟩ := by
  unfold extract
  cases extractor.parameters text with
  | nil => simp
  | cons p rest => simp [eq_comm]

/-- What a signature of row text holds: neither a parenthesis nor a line feed in its name,
and no line feed in the name of a parameter. -/
theorem plain_of_extract_normalize {signature : Signature}
    (h : extractor.extract (RowText.normalize text) = some signature) :
    '(' ∉ signature.name ∧ '\n' ∉ signature.name ∧ ∀ p ∈ signature.parameters, '\n' ∉ p.name := by
  obtain ⟨-, rfl⟩ := extract_eq_some_iff.mp h
  have hline := RowText.lineFeed_not_mem_normalize text
  refine ⟨Text.not_mem_before '(' _, fun hmem => ?_, fun p hp hmem => ?_⟩
  · exact hline ((List.takeWhile_prefix _).subset hmem)
  · exact hline ((infix_of_mem_parameters hp).2.subset hmem)

end Extractor

end JavadocNames
