import JavadocNames.Text.Utf8

/-!
# UTF-8 there and back

The bytes of a text decode to the text, so different texts have different bytes.  A
character is decoded from the bytes that it was encoded to, whatever follows them.
-/

namespace JavadocNames

namespace Utf8

theorem toNat_ofNat {n : Nat} (h : n < 256) : (UInt8.ofNat n).toNat = n := by
  rw [UInt8.toNat_ofNat', Nat.mod_eq_of_lt h]

/-- A byte behind the first one, which carries six bits of a character. -/
def tail (n : Nat) : UInt8 :=
  UInt8.ofNat (n % 64 + 0x80)

theorem toNat_tail (n : Nat) : (tail n).toNat = n % 64 + 0x80 :=
  toNat_ofNat (by omega)

theorem payload_tail (n : Nat) : payload (tail n) = n % 64 := by
  rw [payload, toNat_tail]
  omega

theorem isContinuation_tail (n : Nat) : isContinuation (tail n) = true := by
  have hlow : 0x80 ≤ n % 64 + 0x80 := by omega
  have hhigh : n % 64 + 0x80 ≤ 0xBF := by omega
  simp [isContinuation, UInt8.le_iff_toNat_le, toNat_tail, hhigh]

/-- A second byte that keeps to the bounds which the first one sets. -/
theorem isSecond_tail {first : UInt8} {n : Nat} (hthree : first.toNat = 0xE0 → 32 ≤ n % 64)
    (hsurrogate : first.toNat = 0xED → n % 64 < 32) (hfour : first.toNat = 0xF0 → 16 ≤ n % 64)
    (hlast : first.toNat = 0xF4 → n % 64 < 16) : isSecond first (tail n) = true := by
  have hn : n % 64 < 64 := Nat.mod_lt n (by decide)
  simp only [isSecond, isContinuation_tail, ← UInt8.toNat_inj, UInt8.le_iff_toNat_le,
    toNat_tail, UInt8.reduceToNat]
  split
  · rename_i hfirst
    have := hthree hfirst
    simp only [Bool.and_eq_true, decide_eq_true_eq]
    omega
  split
  · rename_i hfirst
    have := hsurrogate hfirst
    simp only [Bool.and_eq_true, decide_eq_true_eq]
    omega
  split
  · rename_i hfirst
    have := hfour hfirst
    simp only [Bool.and_eq_true, decide_eq_true_eq]
    omega
  split
  · rename_i hfirst
    have := hlast hfirst
    simp only [Bool.and_eq_true, decide_eq_true_eq]
    omega
  · rfl

/-! ## One character -/

theorem decodeOne_one {m : Nat} (hm : m < 0x80) (rest : Bytes) :
    decodeOne (UInt8.ofNat m) rest = (some (Char.ofNat m), 0) := by
  have hfirst : (UInt8.ofNat m).toNat = m := toNat_ofNat (by omega)
  have hone : UInt8.ofNat m < 0x80 := by
    rw [UInt8.lt_iff_toNat_lt, hfirst]
    exact hm
  rw [decodeOne.eq_def, if_pos hone, hfirst]

theorem decodeOne_two {m : Nat} (hlow : 2 ≤ m) (hhigh : m < 32) (n : Nat) (rest : Bytes) :
    decodeOne (UInt8.ofNat (m + 0xC0)) (tail n :: rest) =
      (some (Char.ofNat (m * 64 + n % 64)), 1) := by
  have hfirst : (UInt8.ofNat (m + 0xC0)).toNat = m + 0xC0 := toNat_ofNat (by omega)
  have hbits : (m + 0xC0) % 32 = m := by omega
  simp only [decodeOne, UInt8.lt_iff_toNat_lt, UInt8.le_iff_toNat_le, hfirst,
    UInt8.reduceToNat, isContinuation_tail, payload_tail, hbits, if_true]
  rw [if_neg (by omega), if_pos (by simp; omega)]

theorem decodeOne_three {m n : Nat} (hhigh : m < 16) (hlong : m = 0 → 32 ≤ n % 64)
    (hsurrogate : m = 13 → n % 64 < 32) (k : Nat) (rest : Bytes) :
    decodeOne (UInt8.ofNat (m + 0xE0)) (tail n :: tail k :: rest) =
      (some (Char.ofNat (m * 4096 + n % 64 * 64 + k % 64)), 2) := by
  have hfirst : (UInt8.ofNat (m + 0xE0)).toNat = m + 0xE0 := toNat_ofNat (by omega)
  have hbits : (m + 0xE0) % 16 = m := by omega
  have hsecond : isSecond (UInt8.ofNat (m + 0xE0)) (tail n) = true := by
    apply isSecond_tail <;> rw [hfirst] <;> intro h <;> omega
  simp only [decodeOne, UInt8.lt_iff_toNat_lt, UInt8.le_iff_toNat_le, hfirst,
    UInt8.reduceToNat, hsecond, isContinuation_tail, payload_tail, hbits, if_true]
  rw [if_neg (by omega), if_neg (by simp), if_pos (by simp; omega)]

theorem decodeOne_four {m n : Nat} (hhigh : m < 5) (hlong : m = 0 → 16 ≤ n % 64)
    (hlast : m = 4 → n % 64 < 16) (k l : Nat) (rest : Bytes) :
    decodeOne (UInt8.ofNat (m + 0xF0)) (tail n :: tail k :: tail l :: rest) =
      (some (Char.ofNat (m * 262144 + n % 64 * 4096 + k % 64 * 64 + l % 64)), 3) := by
  have hfirst : (UInt8.ofNat (m + 0xF0)).toNat = m + 0xF0 := toNat_ofNat (by omega)
  have hbits : (m + 0xF0) % 8 = m := by omega
  have hsecond : isSecond (UInt8.ofNat (m + 0xF0)) (tail n) = true := by
    apply isSecond_tail <;> rw [hfirst] <;> intro h <;> omega
  simp only [decodeOne, UInt8.lt_iff_toNat_lt, UInt8.le_iff_toNat_le, hfirst,
    UInt8.reduceToNat, hsecond, isContinuation_tail, payload_tail, hbits, if_true]
  rw [if_neg (by omega), if_neg (by simp), if_neg (by simp), if_pos (by simp; omega)]

/-- The forms that a character may have. -/
theorem encodeChar_cases (c : Char) :
    (c.toNat < 0x80 ∧ String.utf8EncodeChar c = [UInt8.ofNat c.toNat]) ∨
    (0x80 ≤ c.toNat ∧ c.toNat < 0x800 ∧
      String.utf8EncodeChar c = [UInt8.ofNat (c.toNat / 64 + 0xC0), tail c.toNat]) ∨
    (0x800 ≤ c.toNat ∧ c.toNat < 0x10000 ∧
      String.utf8EncodeChar c = [UInt8.ofNat (c.toNat / 4096 + 0xE0), tail (c.toNat / 64),
        tail c.toNat]) ∨
    (0x10000 ≤ c.toNat ∧ c.toNat < 0x110000 ∧
      String.utf8EncodeChar c = [UInt8.ofNat (c.toNat / 262144 + 0xF0),
        tail (c.toNat / 4096), tail (c.toNat / 64), tail c.toNat]) := by
  have hvalid : c.toNat < 0x110000 := by
    rcases c.valid with h | h
    · exact Nat.lt_trans h (by decide)
    · exact h.2
  have hbits : ∀ n m, n < m → n % m = n := fun n m h => Nat.mod_eq_of_lt h
  change _ ∨ _
  unfold String.utf8EncodeChar
  simp only [show c.val.toNat = c.toNat from rfl, tail]
  split
  · left
    exact ⟨by omega, rfl⟩
  split
  · right; left
    rw [hbits (c.toNat / 64) 32 (by omega)]
    exact ⟨by omega, by omega, rfl⟩
  split
  · right; right; left
    rw [hbits (c.toNat / 4096) 16 (by omega)]
    exact ⟨by omega, by omega, rfl⟩
  · right; right; right
    rw [hbits (c.toNat / 262144) 8 (by omega)]
    exact ⟨by omega, hvalid, rfl⟩

theorem decodeFrom_encodeChar_append (c : Char) (rest : Bytes) :
    decodeFrom 0 (String.utf8EncodeChar c ++ rest) = some c :: decodeFrom 0 rest := by
  rcases encodeChar_cases c with ⟨h, hform⟩ | ⟨hlow, hhigh, hform⟩ | ⟨hlow, hhigh, hform⟩ |
      ⟨hlow, hhigh, hform⟩
  · rw [hform, List.cons_append, List.nil_append, decodeFrom, decodeOne_one h,
      Char.ofNat_toNat]
  · have hsum : c.toNat / 64 * 64 + c.toNat % 64 = c.toNat := by omega
    rw [hform]
    simp only [List.cons_append, List.nil_append, decodeFrom]
    rw [decodeOne_two (by omega) (by omega), hsum, Char.ofNat_toNat]
    rfl
  · have hsum : c.toNat / 4096 * 4096 + c.toNat / 64 % 64 * 64 + c.toNat % 64 = c.toNat := by
      omega
    have hsurrogate : c.toNat / 4096 = 13 → c.toNat / 64 % 64 < 32 := by
      have hvalid := c.valid
      change c.toNat < 0xd800 ∨ 0xdfff < c.toNat ∧ c.toNat < 0x110000 at hvalid
      omega
    rw [hform]
    simp only [List.cons_append, List.nil_append, decodeFrom]
    rw [decodeOne_three (by omega) (by omega) hsurrogate, hsum, Char.ofNat_toNat]
    rfl
  · have hsum : c.toNat / 262144 * 262144 + c.toNat / 4096 % 64 * 4096 +
        c.toNat / 64 % 64 * 64 + c.toNat % 64 = c.toNat := by
      omega
    rw [hform]
    simp only [List.cons_append, List.nil_append, decodeFrom]
    rw [decodeOne_four (by omega) (by omega) (by omega), hsum, Char.ofNat_toNat]
    rfl

/-! ## Texts -/

theorem encode_append (front rest : Text) : encode (front ++ rest) = encode front ++ encode rest :=
  List.flatMap_append

theorem decodeFrom_encode (text : Text) : decodeFrom 0 (encode text) = text.map some := by
  induction text with
  | nil => rfl
  | cons c rest ih =>
      rw [encode, List.flatMap_cons, decodeFrom_encodeChar_append]
      exact congrArg (some c :: ·) ih

/-- The bytes of a text are well-formed, and they are the bytes of that text. -/
theorem decode?_encode (text : Text) : decode? (encode text) = some text := by
  rw [decode?, decodeFrom_encode]
  induction text with
  | nil => rfl
  | cons c rest ih => simp [ih]

theorem encode_injective : Function.Injective encode := by
  intro a b h
  have hdecoded := congrArg decode? h
  rwa [decode?_encode, decode?_encode, Option.some.injEq] at hdecoded

/-- Only a line feed has the byte of a line feed. -/
theorem lineFeed_not_mem_encode {text : Text} (h : '\n' ∉ text) : 0x0A ∉ encode text := by
  intro hmem
  obtain ⟨c, hc, hbyte⟩ := List.mem_flatMap.mp hmem
  apply h
  -- The first byte of a longer form is too large, and so are the bytes behind it.
  have htail : ∀ n, (0x0A : UInt8) ≠ tail n := by
    intro n heq
    have hn := congrArg UInt8.toNat heq
    rw [toNat_tail] at hn
    change 10 = _ at hn
    omega
  have hfirst : ∀ n, 0xC0 ≤ n → n < 256 → (0x0A : UInt8) ≠ UInt8.ofNat n := by
    intro n hlow hhigh heq
    have hn := congrArg UInt8.toNat heq
    rw [toNat_ofNat hhigh] at hn
    change 10 = _ at hn
    omega
  rcases encodeChar_cases c with ⟨hlow, hform⟩ | ⟨-, hhigh, hform⟩ | ⟨-, hhigh, hform⟩ |
      ⟨-, hhigh, hform⟩
  · rw [hform, List.mem_singleton] at hbyte
    have hnumber := congrArg UInt8.toNat hbyte
    rw [toNat_ofNat (by omega)] at hnumber
    have heq : c = '\n' := Char.toNat_inj.mp hnumber.symm
    rwa [← heq]
  all_goals
    simp only [hform, List.mem_cons, List.not_mem_nil, or_false, htail] at hbyte
    exact absurd hbyte (hfirst _ (by omega) (by omega))

end Utf8

end JavadocNames
