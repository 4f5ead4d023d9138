import JavadocNames.Proofs.Signature.Excerpts
import Mathlib.Data.List.Infix

/-!
# Row text in one pass

The four replacements that make row text are one pass from the left: none of them makes or
takes away what a later one looks for.  So row text has nothing left to replace, and making
row text of it again changes nothing.  Raw text can be cut and its parts can be treated one
by one wherever the cut does not go through a spelled space or a line end, and nowhere else.
-/

namespace JavadocNames

namespace RowText

/-- A line end of two characters. -/
def lineEnd : Text :=
  ['\r', '\n']

/-- Raw text read once from the left.  A space that is spelled, a no-break space and a line
end give one plain space each, and any other character is copied. -/
def onePass : Text → Text
  | [] => []
  | '&' :: 'n' :: 'b' :: 's' :: 'p' :: ';' :: rest => ' ' :: onePass rest
  | '\r' :: '\n' :: rest => ' ' :: onePass rest
  | '\u00A0' :: rest => ' ' :: onePass rest
  | '\n' :: rest => ' ' :: onePass rest
  | c :: rest => c :: onePass rest

/-! ## Raw text by its front -/

/-- What the pass copies at the front of a text starts neither with a spelled space nor with
a line end of two characters. -/
theorem starts_of_copied {c : Char} {rest : Text}
    (hspelled : ∀ after, c = '&' → rest = 'n' :: 'b' :: 's' :: 'p' :: ';' :: after → False)
    (hline : ∀ after, c = '\r' → rest = '\n' :: after → False) :
    startsSpelled (c :: rest) = false ∧ startsLineEnd (c :: rest) = false := by
  rw [Bool.eq_false_iff, Bool.eq_false_iff]
  constructor
  · intro hstart
    obtain ⟨after, hafter⟩ := List.isPrefixOf_iff_prefix.mp hstart
    obtain ⟨hc, hrest⟩ := List.cons.inj hafter
    exact hspelled after hc.symm hrest.symm
  · intro hstart
    obtain ⟨after, hafter⟩ := List.isPrefixOf_iff_prefix.mp hstart
    obtain ⟨hc, hrest⟩ := List.cons.inj hafter
    exact hline after hc.symm hrest.symm

/-- Raw text is empty, or starts with a spelled space, with a line end of two characters, or
with a character that starts neither. -/
theorem front_induction {motive : Text → Prop} (nil : motive [])
    (spelled : ∀ rest, motive rest → motive (spelledSpace ++ rest))
    (ending : ∀ rest, motive rest → motive (lineEnd ++ rest))
    (other : ∀ c rest, startsSpelled (c :: rest) = false → startsLineEnd (c :: rest) = false →
      motive rest → motive (c :: rest)) (text : Text) : motive text := by
  induction text using onePass.induct with
  | case1 => exact nil
  | case2 rest ih => exact spelled rest ih
  | case3 rest ih => exact ending rest ih
  | case4 rest ih =>
      exact other _ rest (startsSpelled_cons_of_ne (by decide) rest)
        (startsLineEnd_cons_of_ne (by decide) rest) ih
  | case5 rest ih =>
      exact other _ rest (startsSpelled_cons_of_ne (by decide) rest)
        (startsLineEnd_cons_of_ne (by decide) rest) ih
  | case6 c rest hspelled hline _ _ ih =>
      obtain ⟨hspelled, hline⟩ := starts_of_copied hspelled hline
      exact other c rest hspelled hline ih

theorem normalize_eq_onePass (text : Text) : normalize text = onePass text := by
  fun_induction onePass text with
  | case1 => rfl
  | case2 rest ih =>
      rw [← ih]
      exact normalize_spelled rest
  | case3 rest ih => rw [normalize_lineEnd, ih]
  | case4 rest ih =>
      rw [← ih]
      exact normalize_noBreak rest
  | case5 rest ih => rw [normalize_lineFeed, ih]
  | case6 c rest hspelled hline hspace hfeed ih =>
      obtain ⟨hspelled, hline⟩ := starts_of_copied hspelled hline
      have hcopied : ¬ (c = noBreakSpace ∨ c = '\n') := not_or.mpr ⟨hspace, hfeed⟩
      rw [normalize_cons hspelled hline, if_neg hcopied, ih]

-- No pass puts together what a later one looks for.
example : normalize "&nb&nbsp;sp;\r\r\n&nbsp\n;".toList = "&nb sp;\r &nbsp ;".toList := by
  decide

/-- A line end of two characters is one space, as a word in front of a text. -/
theorem normalize_ending (rest : Text) : normalize (lineEnd ++ rest) = ' ' :: normalize rest :=
  normalize_lineEnd rest

theorem normalize_ne_nil {text : Text} (h : text ≠ []) : normalize text ≠ [] := by
  cases text using front_induction with
  | nil => contradiction
  | spelled rest => simp [normalize_spelled]
  | ending rest => simp [normalize_ending]
  | other c rest hspelled hline => simp [normalize_cons hspelled hline]

/-! ## Nothing is left to replace -/

theorem eq_nil_of_prefix_space {word rest : Text} (hword : ' ' ∉ word)
    (h : word <+: ' ' :: rest) : word = [] := by
  cases word with
  | nil => rfl
  | cons c word =>
      obtain ⟨rfl, -⟩ := List.cons_prefix_cons.mp h
      exact absurd List.mem_cons_self hword

/-- What stands at the front of row text, and has no space in it, stood at the front of the
raw text. -/
theorem prefix_of_prefix_normalize {word text : Text} (hword : ' ' ∉ word)
    (h : word <+: normalize text) : word <+: text := by
  induction text using front_induction generalizing word with
  | nil => exact h
  | spelled rest _ =>
      rw [normalize_spelled] at h
      rw [eq_nil_of_prefix_space hword h]
      exact List.nil_prefix
  | ending rest _ =>
      rw [normalize_ending] at h
      rw [eq_nil_of_prefix_space hword h]
      exact List.nil_prefix
  | other c rest hspelled hline ih =>
      rw [normalize_cons hspelled hline] at h
      cases word with
      | nil => exact List.nil_prefix
      | cons d word =>
          rw [List.mem_cons, not_or] at hword
          obtain ⟨hd, hrest⟩ := List.cons_prefix_cons.mp h
          have hcopied : d = c := by
            split at hd
            · exact absurd hd (Ne.symm hword.1)
            · exact hd
          rw [hcopied]
          exact List.cons_prefix_cons.mpr ⟨rfl, ih hword.2 hrest⟩

theorem not_spelledSpace_infix_normalize (text : Text) :
    ¬ spelledSpace <:+: normalize text := by
  have hspace : ' ' ∉ spelledSpace := by decide
  have hfront : ∀ rest : Text, ¬ spelledSpace <+: ' ' :: rest := fun rest h =>
    absurd (eq_nil_of_prefix_space hspace h) (by decide)
  induction text using front_induction with
  | nil => exact fun h => absurd (List.eq_nil_of_infix_nil h) (by decide)
  | spelled rest ih =>
      rw [normalize_spelled, List.infix_cons_iff]
      exact not_or.mpr ⟨hfront _, ih⟩
  | ending rest ih =>
      rw [normalize_ending, List.infix_cons_iff]
      exact not_or.mpr ⟨hfront _, ih⟩
  | other c rest hspelled hline ih =>
      have hstart : ¬ spelledSpace <+: normalize (c :: rest) := fun h =>
        Bool.eq_false_iff.mp hspelled
          (List.isPrefixOf_iff_prefix.mpr (prefix_of_prefix_normalize hspace h))
      rw [normalize_cons hspelled hline] at hstart ⊢
      rw [List.infix_cons_iff]
      exact not_or.mpr ⟨hstart, ih⟩

theorem noBreakSpace_not_mem_normalize (text : Text) : noBreakSpace ∉ normalize text := by
  induction text using front_induction with
  | nil => exact List.not_mem_nil
  | spelled rest ih =>
      rw [normalize_spelled]
      exact List.not_mem_cons_of_ne_of_not_mem (by decide) ih
  | ending rest ih =>
      rw [normalize_ending]
      exact List.not_mem_cons_of_ne_of_not_mem (by decide) ih
  | other c rest hspelled hline ih =>
      rw [normalize_cons hspelled hline]
      refine List.not_mem_cons_of_ne_of_not_mem ?_ ih
      split
      case isTrue => decide
      case isFalse hc => exact fun h => hc (.inl h.symm)

/-- Raw text without anything to replace is row text. -/
theorem normalize_eq_self {text : Text} (hspelled : ¬ spelledSpace <:+: text)
    (hspace : noBreakSpace ∉ text) (hfeed : '\n' ∉ text) : normalize text = text := by
  induction text with
  | nil => rfl
  | cons c rest ih =>
      have hstart : startsSpelled (c :: rest) = false := Bool.eq_false_iff.mpr fun h =>
        hspelled (List.isPrefixOf_iff_prefix.mp h).isInfix
      have hline : startsLineEnd (c :: rest) = false := Bool.eq_false_iff.mpr fun h =>
        hfeed ((List.isPrefixOf_iff_prefix.mp h).subset (by decide))
      rw [List.mem_cons, not_or] at hspace hfeed
      have hcopied : ¬ (c = noBreakSpace ∨ c = '\n') :=
        not_or.mpr ⟨Ne.symm hspace.1, Ne.symm hfeed.1⟩
      rw [normalize_cons hstart hline, if_neg hcopied,
        ih (fun h => hspelled (List.infix_cons_iff.mpr (.inr h))) hspace.2 hfeed.2]

/-! ## Cutting raw text -/

/-- A cut goes through a word: it leaves a part of the word on each side. -/
def Splits (word front back : Text) : Prop :=
  ∃ head tail, head ≠ [] ∧ tail ≠ [] ∧ word = head ++ tail ∧ head <:+ front ∧ tail <+: back

theorem Splits.mono {word front back : Text} (more : Text) (h : Splits word front back) :
    Splits word (more ++ front) back := by
  obtain ⟨head, tail, hhead, htail, hword, hfront, hback⟩ := h
  exact ⟨head, tail, hhead, htail, hword, hfront.trans (List.suffix_append more front), hback⟩

/-- A word that starts in front of a cut is there as a whole, or the cut goes through it. -/
theorem splits_of_isPrefixOf_append {word front back : Text} (hfront : front ≠ [])
    (hno : word.isPrefixOf front = false) (h : word.isPrefixOf (front ++ back) = true) :
    Splits word front back := by
  have hshort : ¬ word <+: front := fun hprefix =>
    Bool.eq_false_iff.mp hno (List.isPrefixOf_iff_prefix.mpr hprefix)
  obtain ⟨after, hafter⟩ := List.isPrefixOf_iff_prefix.mp h
  rcases List.append_eq_append_iff.mp hafter with ⟨rest, hrest, -⟩ | ⟨tail, htail, hback⟩
  · exact absurd ⟨rest, hrest.symm⟩ hshort
  · refine ⟨front, tail, hfront, ?_, htail, List.suffix_refl front, after, hback.symm⟩
    rintro rfl
    rw [List.append_nil] at htail
    exact hshort (htail ▸ List.prefix_refl front)

/-- A cut in front of a character that a word has at its start only does not go through the
word. -/
theorem not_splits_cons {word : Text} {c : Char} (h : c ∉ word.tail) (front back : Text) :
    ¬ Splits word front (c :: back) := by
  rintro ⟨head, tail, hhead, htail, rfl, -, hback⟩
  obtain ⟨d, head, rfl⟩ := List.exists_cons_of_ne_nil hhead
  obtain ⟨e, tail, rfl⟩ := List.exists_cons_of_ne_nil htail
  obtain ⟨rfl, -⟩ := List.cons_prefix_cons.mp hback
  exact h (List.mem_append_right head List.mem_cons_self)

/-- A cut behind a character that a word has at its end only does not go through the word. -/
theorem not_splits_concat {word : Text} {c : Char} (h : c ∉ word.dropLast) (front back : Text) :
    ¬ Splits word (front ++ [c]) back := by
  rintro ⟨head, tail, hhead, htail, rfl, hfront, -⟩
  have hlast : head.getLast hhead = c := by
    rw [hfront.getLast hhead, List.getLast_concat]
  rw [List.dropLast_append_of_ne_nil htail] at h
  exact h (List.mem_append_left _ (hlast ▸ List.getLast_mem hhead))

/-- Raw text can be treated in parts where the cut does not go through a word. -/
theorem normalize_append {front back : Text} (hspelled : ¬ Splits spelledSpace front back)
    (hline : ¬ Splits lineEnd front back) :
    normalize (front ++ back) = normalize front ++ normalize back := by
  induction front using front_induction with
  | nil => rfl
  | spelled rest ih =>
      have hrest := ih (mt (Splits.mono _) hspelled) (mt (Splits.mono _) hline)
      rw [List.append_assoc, normalize_spelled, normalize_spelled, hrest, List.cons_append]
  | ending rest ih =>
      have hrest := ih (mt (Splits.mono _) hspelled) (mt (Splits.mono _) hline)
      rw [List.append_assoc, normalize_ending, normalize_ending, hrest, List.cons_append]
  | other c rest hfrontSpelled hfrontLine ih =>
      have hrest := ih (mt (Splits.mono [c]) hspelled) (mt (Splits.mono [c]) hline)
      -- No word comes about at the front when the back is put behind.
      have hstart : startsSpelled (c :: rest ++ back) = false := Bool.eq_false_iff.mpr fun h =>
        hspelled (splits_of_isPrefixOf_append (List.cons_ne_nil c rest) hfrontSpelled h)
      have hend : startsLineEnd (c :: rest ++ back) = false := Bool.eq_false_iff.mpr fun h =>
        hline (splits_of_isPrefixOf_append (List.cons_ne_nil c rest) hfrontLine h)
      rw [List.cons_append] at hstart hend ⊢
      rw [normalize_cons hstart hend, normalize_cons hfrontSpelled hfrontLine, hrest,
        List.cons_append]

/-- A cut in front of a character that starts a word does not go through any. -/
theorem normalize_append_cons {c : Char} (hc : c ∈ ['&', '\r']) (front back : Text) :
    normalize (front ++ c :: back) = normalize front ++ normalize (c :: back) := by
  have hfree : c ∉ spelledSpace.tail ∧ c ∉ lineEnd.tail := by
    rcases List.mem_pair.mp hc with rfl | rfl <;> decide
  exact normalize_append (not_splits_cons hfree.1 front back) (not_splits_cons hfree.2 front back)

/-- A cut behind a character that ends a word does not go through any. -/
theorem normalize_concat_append {c : Char} (hc : c ∈ [';', '\n']) (front back : Text) :
    normalize (front ++ [c] ++ back) = normalize (front ++ [c]) ++ normalize back := by
  have hfree : c ∉ spelledSpace.dropLast ∧ c ∉ lineEnd.dropLast := by
    rcases List.mem_pair.mp hc with rfl | rfl <;> decide
  exact normalize_append (not_splits_concat hfree.1 front back)
    (not_splits_concat hfree.2 front back)

/-- Where a cut goes through a word, each of its parts gives something, and the word itself
gives one space only. -/
theorem length_normalize_append_lt {word front back : Text} (h : Splits word front back)
    (hword : ∀ rest, normalize (word ++ rest) = ' ' :: normalize rest)
    (hstart : ∃ c ∈ ['&', '\r'], word.head? = some c)
    (hend : ∃ d ∈ [';', '\n'], word.getLast? = some d) :
    (normalize (front ++ back)).length < (normalize front ++ normalize back).length := by
  obtain ⟨head, tail, hhead, htail, rfl, ⟨before, rfl⟩, ⟨after, rfl⟩⟩ := h
  have hfront := List.length_pos_of_ne_nil (normalize_ne_nil hhead)
  have hback := List.length_pos_of_ne_nil (normalize_ne_nil htail)
  obtain ⟨c, head, rfl⟩ := List.exists_cons_of_ne_nil hhead
  obtain ⟨tail, d, rfl⟩ := List.eq_nil_or_concat' tail |>.resolve_left htail
  obtain ⟨_, hc, hfirst⟩ := hstart
  obtain rfl := Option.some.inj hfirst
  obtain ⟨_, hd, hlast⟩ := hend
  rw [← List.append_assoc, List.getLast?_concat] at hlast
  obtain rfl := Option.some.inj hlast
  have hwhole : normalize (before ++ (c :: head) ++ (tail ++ [d] ++ after)) =
      normalize before ++ ' ' :: normalize after := by
    rw [← hword after, List.append_assoc before, ← List.append_assoc (c :: head) (tail ++ [d])]
    exact normalize_append_cons hc before _
  rw [hwhole, normalize_append_cons hc, normalize_concat_append hd]
  simp only [List.length_append, List.length_cons] at hfront hback ⊢
  omega

theorem normalize_append_iff {front back : Text} :
    normalize (front ++ back) = normalize front ++ normalize back ↔
      ¬ Splits spelledSpace front back ∧ ¬ Splits lineEnd front back := by
  constructor
  · intro h
    refine ⟨fun hsplits => ?_, fun hsplits => ?_⟩
    · exact (length_normalize_append_lt hsplits normalize_spelled ⟨'&', by decide, rfl⟩
        ⟨';', by decide, rfl⟩).ne (congrArg List.length h)
    · exact (length_normalize_append_lt hsplits normalize_ending ⟨'\r', by decide, rfl⟩
        ⟨'\n', by decide, rfl⟩).ne (congrArg List.length h)
  · rintro ⟨hspelled, hline⟩
    exact normalize_append hspelled hline

/-- To make row text by four replacements is to read the raw text once from the left.  So
nothing that is replaced is left in row text, row text of row text is the same, and raw text
can be cut exactly where neither a spelled space nor a line end is cut. -/
theorem normalize_in_one_pass :
    (∀ text, normalize text = onePass text) ∧
    (∀ text, ¬ spelledSpace <:+: normalize text ∧ noBreakSpace ∉ normalize text ∧
      '\n' ∉ normalize text) ∧
    (∀ text, normalize (normalize text) = normalize text) ∧
    ∀ front back, normalize (front ++ back) = normalize front ++ normalize back ↔
      ¬ Splits spelledSpace front back ∧ ¬ Splits lineEnd front back := by
  have hnone : ∀ text, ¬ spelledSpace <:+: normalize text ∧ noBreakSpace ∉ normalize text ∧
      '\n' ∉ normalize text := fun text =>
    ⟨not_spelledSpace_infix_normalize text, noBreakSpace_not_mem_normalize text,
      lineFeed_not_mem_normalize text⟩
  refine ⟨normalize_eq_onePass, hnone, fun text => ?_, fun front back => normalize_append_iff⟩
  obtain ⟨hspelled, hspace, hfeed⟩ := hnone text
  exact normalize_eq_self hspelled hspace hfeed

end RowText

end JavadocNames
