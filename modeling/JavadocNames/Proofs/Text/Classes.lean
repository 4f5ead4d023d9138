import JavadocNames.Pattern.CharSet

/-!
# Classes of characters

A character that is found in a table of ranges lies in one of its ranges, so a fact
about a short table can be checked member by member.  White space has no word
characters in it.
-/

namespace JavadocNames

namespace Text

/-- What the search by halving finds is there. -/
theorem exists_of_findRange {table : Array (Nat × Nat)} {n steps low high : Nat}
    (h : findRange table n steps low high = true) :
    ∃ range ∈ table.toList, range.1 ≤ n ∧ n ≤ range.2 := by
  induction steps generalizing low high with
  | zero => contradiction
  | succ steps ih =>
      rw [findRange] at h
      split at h
      · dsimp only at h
        split at h
        · contradiction
        · rename_i first last hget
          split at h
          · exact ih h
          · split at h
            · exact ih h
            · refine ⟨(first, last), ?_, by omega, by omega⟩
              exact Array.mem_toList_iff.mpr (Array.mem_of_getElem? hget)
      · contradiction

/-- The numbers in the ranges of a table. -/
def rangeMembers (table : Array (Nat × Nat)) : List Nat :=
  table.toList.flatMap fun range => List.range' range.1 (range.2 + 1 - range.1)

theorem mem_rangeMembers_of_inRanges {table : Array (Nat × Nat)} {n : Nat}
    (h : inRanges table n = true) : n ∈ rangeMembers table := by
  obtain ⟨range, hrange, hfirst, hlast⟩ := exists_of_findRange h
  refine List.mem_flatMap.mpr ⟨range, hrange, List.mem_range'_1.mpr ?_⟩
  omega

/-- No white space character is a word character. -/
theorem isWord_of_isBlank {c : Char} (h : isBlank c = true) : isWord c = false := by
  have hall : ∀ n ∈ rangeMembers blankRanges, isWord (Char.ofNat n) = false := by
    decide +kernel
  have hc := hall c.toNat (mem_rangeMembers_of_inRanges h)
  rwa [Char.ofNat_toNat] at hc

end Text

end JavadocNames
