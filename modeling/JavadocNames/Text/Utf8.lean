import JavadocNames.Text.Basic

/-!
# Bytes of a text

Texts travel as UTF-8.  Encoding is per character.  Decoding never fails: each
maximal part of the input that begins a character but cannot be completed, and
each byte that cannot begin one, becomes one U+FFFD.
-/

namespace JavadocNames

/-- A byte string. -/
abbrev Bytes := List UInt8

namespace Utf8

/-- The UTF-8 form of a text. -/
def encode (text : Text) : Bytes :=
  text.flatMap String.utf8EncodeChar

/-- The character shown for bytes that are not UTF-8. -/
def replacement : Char := '\uFFFD'

/-- A byte `10xxxxxx`, which may follow the first byte of a character. -/
def isContinuation (b : UInt8) : Bool :=
  0x80 ≤ b && b ≤ 0xBF

/-- The low six bits of a continuation byte. -/
def payload (b : UInt8) : Nat :=
  b.toNat % 64

/-- The second bytes that may follow a first byte.  The bounds exclude overlong
forms, surrogates, and numbers above U+10FFFF. -/
def isSecond (first second : UInt8) : Bool :=
  if first = 0xE0 then 0xA0 ≤ second && second ≤ 0xBF
  else if first = 0xED then 0x80 ≤ second && second ≤ 0x9F
  else if first = 0xF0 then 0x90 ≤ second && second ≤ 0xBF
  else if first = 0xF4 then 0x80 ≤ second && second ≤ 0x8F
  else isContinuation second

/-- One step of decoding: the character read from the front (`none` for bytes
that are not UTF-8) and the number of bytes used after the first. -/
def decodeOne (first : UInt8) (rest : Bytes) : Option Char × Nat :=
  if first < 0x80 then
    (some (Char.ofNat first.toNat), 0)
  else if 0xC2 ≤ first && first ≤ 0xDF then
    match rest with
    | b :: _ =>
        if isContinuation b then
          (some (Char.ofNat (first.toNat % 32 * 64 + payload b)), 1)
        else (none, 0)
    | [] => (none, 0)
  else if 0xE0 ≤ first && first ≤ 0xEF then
    match rest with
    | b :: more =>
        if isSecond first b then
          match more with
          | c :: _ =>
              if isContinuation c then
                (some (Char.ofNat
                  (first.toNat % 16 * 4096 + payload b * 64 + payload c)), 2)
              else (none, 1)
          | [] => (none, 1)
        else (none, 0)
    | [] => (none, 0)
  else if 0xF0 ≤ first && first ≤ 0xF4 then
    match rest with
    | b :: more =>
        if isSecond first b then
          match more with
          | c :: last =>
              if isContinuation c then
                match last with
                | d :: _ =>
                    if isContinuation d then
                      (some (Char.ofNat
                        (first.toNat % 8 * 262144 + payload b * 4096 +
                          payload c * 64 + payload d)), 3)
                    else (none, 2)
                | [] => (none, 2)
              else (none, 1)
          | [] => (none, 1)
        else (none, 0)
    | [] => (none, 0)
  else
    (none, 0)

/-- Decode from the `skip`-th byte on; `none` marks a place that is not UTF-8. -/
def decodeFrom : Nat → Bytes → List (Option Char)
  | _, [] => []
  | skip + 1, _ :: rest => decodeFrom skip rest
  | 0, first :: rest =>
      (decodeOne first rest).1 :: decodeFrom (decodeOne first rest).2 rest

/-- Decode bytes, writing U+FFFD for every place that is not UTF-8. -/
def decodeLossy (bytes : Bytes) : Text :=
  (decodeFrom 0 bytes).map (·.getD replacement)

/-- The text of well-formed UTF-8; `none` when some place is not UTF-8. -/
def decode? (bytes : Bytes) : Option Text :=
  (decodeFrom 0 bytes).mapM id

end Utf8

end JavadocNames
