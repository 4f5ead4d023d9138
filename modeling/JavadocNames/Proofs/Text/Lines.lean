import JavadocNames.Proofs.Text.Utf8

/-!
# Lines of bytes

Texts without line feeds are written one a line.  Cut at the line feeds, the bytes are
those of the texts, one by one, and an empty piece behind the last line feed.
-/

namespace JavadocNames

namespace Text

/-- The bytes of texts, each on a line of its own. -/
def lineBytes (texts : List Text) : Bytes :=
  texts.flatMap fun text => Utf8.encode (line text)

theorem lineBytes_append (texts others : List Text) :
    lineBytes (texts ++ others) = lineBytes texts ++ lineBytes others :=
  List.flatMap_append

theorem lineBytes_cons (text : Text) (rest : List Text) :
    lineBytes (text :: rest) = Utf8.encode text ++ 0x0A :: lineBytes rest := by
  have hend : Utf8.encode ['\n'] = [0x0A] := by decide
  rw [lineBytes, List.flatMap_cons, line, Utf8.encode_append, hend, List.append_assoc]
  rfl

/-- Cut at the line feeds, lines are what was written on them. -/
theorem splitOn_lineBytes {texts : List Text} (h : ∀ text ∈ texts, '\n' ∉ text) :
    (lineBytes texts).splitOn 0x0A = texts.map Utf8.encode ++ [[]] := by
  induction texts with
  | nil => rfl
  | cons text rest ih =>
      have hfirst := Utf8.lineFeed_not_mem_encode (h text List.mem_cons_self)
      have hrest := ih fun other hother => h other (List.mem_cons_of_mem text hother)
      rw [lineBytes_cons, List.splitOn_append_cons_self_of_not_mem hfirst, hrest]
      rfl

/-- Every line has one line feed. -/
theorem count_lineBytes {texts : List Text} (h : ∀ text ∈ texts, '\n' ∉ text) :
    (lineBytes texts).count 0x0A = texts.length := by
  induction texts with
  | nil => rfl
  | cons text rest ih =>
      have hfirst := Utf8.lineFeed_not_mem_encode (h text List.mem_cons_self)
      have hrest := ih fun other hother => h other (List.mem_cons_of_mem text hother)
      rw [lineBytes_cons, List.count_append, List.count_cons_self,
        List.count_eq_zero_of_not_mem hfirst, hrest, List.length_cons, Nat.zero_add]

/-- Texts without line feeds are known from their lines. -/
theorem eq_of_lineBytes_eq {texts others : List Text} (htexts : ∀ text ∈ texts, '\n' ∉ text)
    (hothers : ∀ text ∈ others, '\n' ∉ text) (h : lineBytes texts = lineBytes others) :
    texts = others := by
  have hsplit := congrArg (List.splitOn 0x0A) h
  rw [splitOn_lineBytes htexts, splitOn_lineBytes hothers] at hsplit
  have hbytes := List.append_cancel_right hsplit
  exact (List.map_inj_right fun _ _ heq => Utf8.encode_injective heq).mp hbytes

end Text

end JavadocNames
