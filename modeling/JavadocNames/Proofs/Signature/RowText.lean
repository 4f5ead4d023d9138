import JavadocNames.Signature.RowText

/-!
# The laws of row text

Four replacements make row text out of raw text.  None of them makes work for a later
one, so the front of a text decides how the row text starts: a space that is spelled, a
no-break space or a line end gives one plain space, and every other character stays.
-/

namespace JavadocNames

namespace Text

theorem replaceFrom_eq (old new : Text) (skip : Nat) (text : Text) :
    replaceFrom old new skip text = replace old new (text.drop skip) := by
  induction skip generalizing text with
  | zero => rfl
  | succ skip ih =>
      cases text with
      | nil => rfl
      | cons c rest => exact ih rest

/-- Where the old word does not stand, a character is copied. -/
theorem replace_cons {old : Text} {c : Char} {rest : Text}
    (h : old.isPrefixOf (c :: rest) = false) (new : Text) :
    replace old new (c :: rest) = c :: replace old new rest := by
  rw [replace, replaceFrom, h]
  rfl

/-- Where the old word stands, the new one is written. -/
theorem replace_append {old : Text} (hold : old ≠ []) (new rest : Text) :
    replace old new (old ++ rest) = new ++ replace old new rest := by
  cases old with
  | nil => contradiction
  | cons c word =>
      have hfront : (c :: word).isPrefixOf (c :: (word ++ rest)) = true :=
        List.isPrefixOf_iff_prefix.mpr (List.prefix_append (c :: word) rest)
      rw [List.cons_append, replace, replaceFrom, if_pos hfront, replaceFrom_eq]
      change new ++ replace (c :: word) new ((word ++ rest).drop word.length) = _
      rw [List.drop_left]

/-- To replace a single character is to rename it. -/
theorem replace_single (old new : Char) (text : Text) :
    replace [old] [new] text = text.map fun c => if c = old then new else c := by
  induction text with
  | nil => rfl
  | cons c rest ih =>
      by_cases hc : c = old
      · subst hc
        have hword := replace_append (List.cons_ne_nil c []) [new] rest
        rw [List.map_cons, if_pos rfl, ← ih]
        exact hword
      · have hno : [old].isPrefixOf (c :: rest) = false := by
          simp [List.isPrefixOf, Ne.symm hc]
        rw [replace_cons hno, ih, List.map_cons, if_neg hc]

end Text

namespace RowText

/-- The raw text starts with a space that is spelled. -/
def startsSpelled (text : Text) : Bool :=
  spelledSpace.isPrefixOf text

/-- The raw text starts with a line end of two characters. -/
def startsLineEnd (text : Text) : Bool :=
  ['\r', '\n'].isPrefixOf text

theorem startsSpelled_cons_of_ne {c : Char} (h : c ≠ '&') (rest : Text) :
    startsSpelled (c :: rest) = false := by
  have hword : spelledSpace = '&' :: "nbsp;".toList := rfl
  rw [startsSpelled, hword, List.isPrefixOf, beq_false_of_ne (Ne.symm h), Bool.false_and]

theorem startsLineEnd_cons_of_ne {c : Char} (h : c ≠ '\r') (rest : Text) :
    startsLineEnd (c :: rest) = false := by
  simp [startsLineEnd, List.isPrefixOf, Ne.symm h]

theorem startsLineEnd_return {rest : Text} :
    startsLineEnd ('\r' :: rest) = true ↔ rest.head? = some '\n' := by
  cases rest with
  | nil => simp [startsLineEnd, List.isPrefixOf]
  | cons d rest =>
      simp only [startsLineEnd, List.isPrefixOf, beq_self_eq_true, Bool.true_and, Bool.and_true,
        beq_iff_eq, List.head?_cons, Option.some.injEq]
      exact eq_comm

/-- The text after the first two replacements. -/
def decoded (text : Text) : Text :=
  Text.replace [noBreakSpace] [' '] (Text.replace spelledSpace [' '] text)

/-- The text after the last two replacements. -/
def joined (text : Text) : Text :=
  Text.replace ['\n'] [' '] (Text.replace ['\r', '\n'] [' '] text)

theorem normalize_eq (text : Text) : normalize text = joined (decoded text) := rfl

theorem decoded_spelled (rest : Text) :
    decoded (spelledSpace ++ rest) = ' ' :: decoded rest := by
  have hword : spelledSpace ≠ [] := by decide
  have hspelled := Text.replace_append hword [' '] rest
  simp only [decoded, hspelled, Text.replace_single, List.singleton_append, List.map_cons]
  rfl

theorem decoded_cons {c : Char} {rest : Text} (h : startsSpelled (c :: rest) = false) :
    decoded (c :: rest) = (if c = noBreakSpace then ' ' else c) :: decoded rest := by
  simp only [decoded, Text.replace_cons h, Text.replace_single, List.map_cons]

/-- No line feed is made at the front of a text. -/
theorem head?_decoded {rest : Text} (h : (decoded rest).head? = some '\n') :
    rest.head? = some '\n' := by
  cases rest with
  | nil => exact h
  | cons c rest =>
      cases hspelled : startsSpelled (c :: rest) with
      | true =>
          obtain ⟨after, hafter⟩ := List.isPrefixOf_iff_prefix.mp hspelled
          rw [← hafter, decoded_spelled] at h
          exact absurd (Option.some.inj h) (by decide)
      | false =>
          rw [decoded_cons hspelled] at h
          by_cases hc : c = noBreakSpace
          · rw [if_pos hc] at h
            exact absurd (Option.some.inj h) (by decide)
          · rw [if_neg hc] at h
            exact h

theorem joined_lineEnd (rest : Text) : joined ('\r' :: '\n' :: rest) = ' ' :: joined rest := by
  have hline := Text.replace_append (List.cons_ne_nil '\r' ['\n']) [' '] rest
  have htwo : '\r' :: '\n' :: rest = ['\r', '\n'] ++ rest := rfl
  rw [joined, htwo, hline, Text.replace_single, List.singleton_append, List.map_cons,
    if_neg (by decide), ← Text.replace_single]
  rfl

theorem joined_cons {c : Char} {rest : Text} (h : startsLineEnd (c :: rest) = false) :
    joined (c :: rest) = (if c = '\n' then ' ' else c) :: joined rest := by
  simp only [joined, Text.replace_cons h, Text.replace_single, List.map_cons]

/-- A space stays at the front. -/
theorem joined_space (rest : Text) : joined (' ' :: rest) = ' ' :: joined rest := by
  rw [joined_cons (startsLineEnd_cons_of_ne (by decide) rest)]
  rfl

/-! ## Laws -/

/-- A spelled space is one space. -/
theorem normalize_spelled (rest : Text) :
    normalize (spelledSpace ++ rest) = ' ' :: normalize rest := by
  rw [normalize_eq, decoded_spelled, joined_space]
  rfl

/-- A line end of two characters is one space. -/
theorem normalize_lineEnd (rest : Text) :
    normalize ('\r' :: '\n' :: rest) = ' ' :: normalize rest := by
  rw [normalize_eq, decoded_cons (startsSpelled_cons_of_ne (by decide) _),
    decoded_cons (startsSpelled_cons_of_ne (by decide) _)]
  exact joined_lineEnd (decoded rest)

/-- Elsewhere each character is a space or stays. -/
theorem normalize_cons {c : Char} {rest : Text} (hspelled : startsSpelled (c :: rest) = false)
    (hline : startsLineEnd (c :: rest) = false) :
    normalize (c :: rest) =
      (if c = noBreakSpace ∨ c = '\n' then ' ' else c) :: normalize rest := by
  rw [normalize_eq, decoded_cons hspelled]
  by_cases hc : c = noBreakSpace
  · rw [if_pos hc, if_pos (Or.inl hc), joined_space]
    rfl
  · -- A line feed behind a carriage return was there from the beginning.
    have hstart : startsLineEnd (c :: decoded rest) = false := by
      by_cases hreturn : c = '\r'
      · subst hreturn
        rw [Bool.eq_false_iff, Ne, startsLineEnd_return] at hline ⊢
        exact fun hhead => hline (head?_decoded hhead)
      · exact startsLineEnd_cons_of_ne hreturn (decoded rest)
    rw [if_neg hc, joined_cons hstart]
    simp only [hc, false_or]
    rfl

/-- A character that no replacement looks at. -/
def isCopied (c : Char) : Bool :=
  c ≠ '&' && c ≠ '\r' && c ≠ '\n' && c ≠ noBreakSpace

theorem normalize_cons_of_isCopied {c : Char} (h : isCopied c = true) (rest : Text) :
    normalize (c :: rest) = c :: normalize rest := by
  simp only [isCopied, Bool.and_eq_true, decide_eq_true_eq] at h
  obtain ⟨⟨⟨hreference, hreturn⟩, hfeed⟩, hspace⟩ := h
  rw [normalize_cons (startsSpelled_cons_of_ne hreference rest)
    (startsLineEnd_cons_of_ne hreturn rest), if_neg (not_or.mpr ⟨hspace, hfeed⟩)]

/-- Text without spaces to be made stays as it is. -/
theorem normalize_append_of_isCopied {front : Text} (h : ∀ c ∈ front, isCopied c = true)
    (rest : Text) : normalize (front ++ rest) = front ++ normalize rest := by
  induction front with
  | nil => rfl
  | cons c front ih =>
      rw [List.cons_append, normalize_cons_of_isCopied (h c List.mem_cons_self),
        ih fun d hd => h d (List.mem_cons_of_mem c hd)]
      rfl

theorem normalize_noBreak (rest : Text) :
    normalize (noBreakSpace :: rest) = ' ' :: normalize rest := by
  rw [normalize_cons (startsSpelled_cons_of_ne (by decide) rest)
    (startsLineEnd_cons_of_ne (by decide) rest)]
  rfl

theorem normalize_lineFeed (rest : Text) :
    normalize ('\n' :: rest) = ' ' :: normalize rest := by
  rw [normalize_cons (startsSpelled_cons_of_ne (by decide) rest)
    (startsLineEnd_cons_of_ne (by decide) rest)]
  rfl

/-- A character other than an ampersand is a space, stays, or goes into the line feed
behind it. -/
theorem normalize_cons_cases {c : Char} (hc : c ≠ '&') (rest : Text) :
    normalize (c :: rest) = ' ' :: normalize rest ∨
      normalize (c :: rest) = c :: normalize rest ∨
        normalize (c :: rest) = normalize rest := by
  cases hline : startsLineEnd (c :: rest) with
  | true =>
      obtain ⟨after, hafter⟩ := List.isPrefixOf_iff_prefix.mp hline
      obtain ⟨rfl, rfl⟩ := List.cons.inj hafter
      right
      right
      exact (normalize_lineEnd after).trans (normalize_lineFeed after).symm
  | false =>
      rw [normalize_cons (startsSpelled_cons_of_ne hc rest) hline]
      by_cases hspace : c = noBreakSpace ∨ c = '\n'
      · left
        rw [if_pos hspace]
      · right
        left
        rw [if_neg hspace]

end RowText

end JavadocNames
