import JavadocNames.Pattern.CharSet

/-!
# Spans of code points

A set of characters as a list of spans, sorted and apart from each other, and the
pieces of a span that UTF-8 writes with a fixed range of values for each byte.
-/

namespace JavadocNames

/-- The code points from the first to the last. -/
structure Span where
  first : Nat
  last : Nat

namespace Span

/-- The greatest code point. -/
def top : Nat :=
  0x10FFFF

/-- Append a span that does not start before the last one; spans that touch are
joined. -/
def append (before : List Span) (span : Span) : List Span :=
  match before with
  | [] => [span]
  | last :: others =>
      if span.first ≤ last.last + 1 then
        ⟨last.first, max last.last span.last⟩ :: others
      else span :: before

/-- The same code points, sorted and with gaps between the spans. -/
def sorted (spans : List Span) : List Span :=
  ((spans.mergeSort fun a b => a.first ≤ b.first).foldl append []).reverse

/-- The code points from `start` on that are in none of the sorted spans. -/
def gaps (start : Nat) : List Span → List Span
  | [] => if start ≤ top then [⟨start, top⟩] else []
  | span :: others =>
      let after := gaps (span.last + 1) others
      if start < span.first then ⟨start, span.first - 1⟩ :: after else after

/-- The code points that two spans share. -/
def meet (a b : Span) : Option Span :=
  let first := max a.first b.first
  let last := min a.last b.last
  if first ≤ last then some ⟨first, last⟩ else none

/-- The code points of a span. -/
def toList (span : Span) : List Nat :=
  (List.range (span.last + 1 - span.first)).map (span.first + ·)

/-- The spans of a table. -/
def ofTable (table : Array (Nat × Nat)) : List Span :=
  table.toList.map fun (first, last) => ⟨first, last⟩

/-- Spans that hold all characters with case variants. -/
def cased : List Span :=
  Text.foldingRuns.flatMap fun run =>
    [⟨run.first, run.last⟩, ⟨run.image, run.image + (run.last - run.first)⟩]

/-- The case variants of the members of a span. -/
def variants (span : Span) : List Span :=
  ((cased.filterMap span.meet).flatMap toList).flatMap fun n =>
    (Text.caseVariants (Char.ofNat n)).map fun c => ⟨c.toNat, c.toNat⟩

/-- The spans of a set of characters. -/
def ofSet : CharSet → List Span
  | .none => []
  | .any => [⟨0, top⟩]
  | .range first last => if first ≤ last then [⟨first.toNat, last.toNat⟩] else []
  | .word =>
      [⟨0x30, 0x39⟩, ⟨0x41, 0x5A⟩, ⟨0x5F, 0x5F⟩, ⟨0x61, 0x7A⟩] ++ ofTable Text.wordRanges
  | .digit => ofTable Text.digitRanges
  | .blank => ofTable Text.blankRanges
  | .union a b => sorted (ofSet a ++ ofSet b)
  | .inter a b => gaps 0 (sorted (gaps 0 (ofSet a) ++ gaps 0 (ofSet b)))
  | .complement a => gaps 0 (ofSet a)
  | .folded a =>
      let spans := ofSet a
      sorted (spans ++ spans.flatMap variants)

/-! ## Pieces -/

/-- The code points that UTF-8 writes with the same number of bytes, and how many
bytes follow the first.  Surrogates are not written. -/
def lengths : List (Span × Nat) :=
  [(⟨0, 0x7F⟩, 0), (⟨0x80, 0x7FF⟩, 1), (⟨0x800, 0xD7FF⟩, 2), (⟨0xE000, 0xFFFF⟩, 2),
    (⟨0x10000, top⟩, 3)]

/-- Cut a span at the multiples of 64, of 64², and so on, where not all values of the
last byte, the last two bytes, and so on, are in it. -/
def cut : Nat → Span → List Span
  | 0, span => [span]
  | width + 1, span =>
      let size := 64 ^ (width + 1)
      let low := span.first / size
      let high := span.last / size
      if low = high then cut width span
      else
        let (before, start) :=
          if span.first % size = 0 then ([], span.first)
          else (cut width ⟨span.first, (low + 1) * size - 1⟩, (low + 1) * size)
        let (after, stop) :=
          if (span.last + 1) % size = 0 then ([], span.last + 1)
          else (cut width ⟨high * size, span.last⟩, high * size)
        before ++ (if start < stop then [⟨start, stop - 1⟩] else []) ++ after

/-- A range of values for each byte. -/
abbrev ByteRanges := List (UInt8 × UInt8)

/-- The ranges of the bytes of a piece. -/
def byteRanges (piece : Span) : ByteRanges :=
  (String.utf8EncodeChar (Char.ofNat piece.first)).zip
    (String.utf8EncodeChar (Char.ofNat piece.last))

/-- The ranges of bytes that write the characters of a span, in order. -/
def encodings (span : Span) : List ByteRanges :=
  lengths.flatMap fun (part, width) =>
    match span.meet part with
    | some span => (cut width span).map byteRanges
    | none => []

end Span

end JavadocNames
