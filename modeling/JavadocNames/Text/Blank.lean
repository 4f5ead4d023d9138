import JavadocNames.Text.Range

/-!
# White space

The characters that Unicode counts as white space.
-/

namespace JavadocNames

namespace Text

/-- White space: controls, spaces, and separators of lines and paragraphs. -/
def blankRanges : Array (Nat × Nat) :=
  #[
    (0x9, 0xD), (0x20, 0x20), (0x85, 0x85), (0xA0, 0xA0), (0x1680, 0x1680),
    (0x2000, 0x200A), (0x2028, 0x2029), (0x202F, 0x202F), (0x205F, 0x205F), (0x3000, 0x3000)
  ]

/-- A white space character. -/
def isBlank (c : Char) : Bool :=
  inRanges blankRanges c.toNat

end Text

end JavadocNames
