import Mathlib.Algebra.Ring.Nat
import Mathlib.Data.List.Basic

/-!
# Hexadecimal text

Bytes written as hexadecimal text, and read back. Text that names bytes may
carry `0x` prefixes and letters of either case.

* `encodeHex` writes lower case letters, and `decodeHex` reads both cases; what
  `decodeHex` accepts is, up to the case, what `encodeHex` writes of its result.
* `trimHex` removes the prefixes, and leaves what `encodeHex` writes alone.
* `hexMatches` compares text with bytes up to prefixes and case. A text matches
  at most one list of bytes.
-/

namespace Hex

/-- The hexadecimal digits, in their order. -/
def digits : List Char := "0123456789abcdef".toList

def digit (n : ℕ) : Char := digits.getD n '0'

def value (c : Char) : Option ℕ := digits.idxOf? c.toLower

/-- The text of a list of bytes. -/
def encodeHex : List UInt8 → List Char
  | [] => []
  | b :: bs => digit (b.toNat / 16) :: digit (b.toNat % 16) :: encodeHex bs

/-- The bytes that a text writes, if it has an even number of digits. -/
def decodeHex : List Char → Option (List UInt8)
  | [] => some []
  | [_] => none
  | a :: b :: t =>
    match value a, value b, decodeHex t with
    | some high, some low, some bs => some (UInt8.ofNat (16 * high + low) :: bs)
    | _, _, _ => none

/-- Removes all leading `0x`. -/
def trimHex : List Char → List Char
  | '0' :: 'x' :: t => trimHex t
  | t => t

/-- Comparison up to the case of ASCII letters. -/
def eqIgnoreAsciiCase (s t : List Char) : Bool := s.map Char.toLower == t.map Char.toLower

/-- A text names the bytes, up to prefixes and case. -/
def hexMatches (s : List Char) (expected : List UInt8) : Bool :=
  eqIgnoreAsciiCase (trimHex s) (encodeHex expected)

/-- Two texts agree up to prefixes and case. -/
def sameHex (s t : List Char) : Bool := eqIgnoreAsciiCase (trimHex s) (trimHex t)

/-! ### Digits -/

/-- A digit has its value. -/
theorem value_digit : ∀ n < 16, value (digit n) = some n := by decide

/-- The digits are in lower case. -/
theorem toLower_digit : ∀ n < 16, (digit n).toLower = digit n := by decide

/-- None of them starts a prefix. -/
theorem digit_ne_x : ∀ n < 16, digit n ≠ 'x' := by decide

/-- A character with a value is a digit, up to its case. -/
theorem digit_of_value {c : Char} {n : ℕ} (h : value c = some n) :
    n < 16 ∧ digit n = c.toLower := by
  unfold value at h
  rw [List.idxOf?_eq_some_iff] at h
  obtain ⟨h_lt, h_get, -⟩ := h
  refine ⟨h_lt, ?_⟩
  unfold digit
  rw [List.getD_eq_getElem?_getD, List.getElem?_eq_getElem h_lt]
  exact h_get

/-- The first half of a byte is a digit. -/
theorem high_lt (b : UInt8) : b.toNat / 16 < 16 := by
  have h_b := b.toNat_lt
  omega

/-- The second half of a byte is a digit. -/
theorem low_lt (b : UInt8) : b.toNat % 16 < 16 := Nat.mod_lt _ (by decide)

/-! ### Reading back -/

/-- **Decoding undoes encoding.** -/
theorem decodeHex_encodeHex (bs : List UInt8) : decodeHex (encodeHex bs) = some bs := by
  induction bs with
  | nil => rfl
  | cons b bs ih =>
    have h_byte : UInt8.ofNat (16 * (b.toNat / 16) + b.toNat % 16) = b := by
      rw [Nat.div_add_mod]
      exact UInt8.ofNat_toNat
    unfold encodeHex decodeHex
    rw [value_digit _ (high_lt b), value_digit _ (low_lt b), ih]
    dsimp only
    rw [h_byte]

/-- Different bytes are written differently. -/
theorem encodeHex_injective {bs bs' : List UInt8} (h : encodeHex bs = encodeHex bs') :
    bs = bs' := by
  have h_decode := decodeHex_encodeHex bs
  rw [h, decodeHex_encodeHex] at h_decode
  exact (Option.some.inj h_decode).symm

/-- Each byte has two digits. -/
@[simp] theorem length_encodeHex (bs : List UInt8) : (encodeHex bs).length = 2 * bs.length := by
  induction bs with
  | nil => rfl
  | cons b bs ih =>
    unfold encodeHex
    rw [List.length_cons, List.length_cons, ih, List.length_cons]
    omega

/-- What is encoded is in lower case. -/
theorem map_toLower_encodeHex (bs : List UInt8) :
    (encodeHex bs).map Char.toLower = encodeHex bs := by
  induction bs with
  | nil => rfl
  | cons b bs ih =>
    unfold encodeHex
    rw [List.map_cons, List.map_cons, ih, toLower_digit _ (high_lt b), toLower_digit _ (low_lt b)]

/-- What is read is what would be written, up to the case. -/
theorem encodeHex_of_decodeHex : ∀ {s : List Char} {bs : List UInt8}, decodeHex s = some bs →
    encodeHex bs = s.map Char.toLower
  | [], bs, h => by
    obtain rfl := Option.some.inj h
    rfl
  | [_], bs, h => by cases h
  | a :: b :: t, bs, h => by
    unfold decodeHex at h
    split at h
    · next high low bs' h_a h_b h_t =>
      obtain rfl := Option.some.inj h
      obtain ⟨h_high, h_digit⟩ := digit_of_value h_a
      obtain ⟨h_low, h_digit'⟩ := digit_of_value h_b
      have h_size : 16 * high + low < 256 := by omega
      have h_byte : (UInt8.ofNat (16 * high + low)).toNat = 16 * high + low :=
        UInt8.toNat_ofNat_of_lt' h_size
      have h_quot : (16 * high + low) / 16 = high := by omega
      have h_rem : (16 * high + low) % 16 = low := by omega
      unfold encodeHex
      rw [h_byte, h_quot, h_rem, h_digit, h_digit', encodeHex_of_decodeHex h_t]
      rfl
    · cases h

/-- A character that is, in lower case, a digit has the value of the digit. -/
theorem value_of_toLower {c : Char} {n : ℕ} (h_n : n < 16) (h : c.toLower = digit n) :
    value c = some n := by
  rw [← value_digit n h_n]
  unfold value
  rw [h, toLower_digit n h_n]

/-- **Reading.** A text is read exactly when it is written, up to the case. -/
theorem decodeHex_eq_some_iff : ∀ {s : List Char} {bs : List UInt8},
    decodeHex s = some bs ↔ s.map Char.toLower = encodeHex bs := by
  intro s bs
  refine ⟨fun h => (encodeHex_of_decodeHex h).symm, fun h => ?_⟩
  induction bs generalizing s with
  | nil =>
    obtain rfl := List.map_eq_nil_iff.mp h
    rfl
  | cons b bs ih =>
    unfold encodeHex at h
    obtain ⟨x, s, rfl, h_x, h⟩ := List.map_eq_cons_iff.mp h
    obtain ⟨y, s, rfl, h_y, h⟩ := List.map_eq_cons_iff.mp h
    have h_byte : 16 * (b.toNat / 16) + b.toNat % 16 = b.toNat := Nat.div_add_mod ..
    unfold decodeHex
    rw [value_of_toLower (high_lt b) h_x, value_of_toLower (low_lt b) h_y, ih h]
    dsimp only
    rw [h_byte, UInt8.ofNat_toNat]

/-! ### Comparisons -/

/-- Digits have no prefix, whatever their case. -/
theorem trimHex_of_digits {s : List Char} {bs : List UInt8}
    (h : s.map Char.toLower = encodeHex bs) : trimHex s = s := by
  unfold trimHex
  split
  · next t =>
    cases bs with
    | nil => cases h
    | cons b bs =>
      unfold encodeHex at h
      obtain ⟨-, h_tail⟩ := List.cons.inj h
      have h_low : Char.toLower 'x' = digit (b.toNat % 16) := (List.cons.inj h_tail).1
      exact absurd h_low.symm (digit_ne_x _ (low_lt b))
  · rfl

/-- What is encoded has no prefix. -/
theorem trimHex_encodeHex (bs : List UInt8) : trimHex (encodeHex bs) = encodeHex bs :=
  trimHex_of_digits (map_toLower_encodeHex bs)

/-- A text without its prefix is no longer. -/
theorem length_trimHex_le (s : List Char) : (trimHex s).length ≤ s.length := by
  fun_induction trimHex s with
  | case1 t ih => exact Nat.le_trans ih (Nat.le_add_right _ 2)
  | case2 t => exact Nat.le_refl _

/-- Two spellings of one value, in either order. -/
theorem sameHex_comm {s t : List Char} (h : sameHex s t = true) : sameHex t s = true := by
  unfold sameHex eqIgnoreAsciiCase at *
  rw [beq_iff_eq] at *
  exact h.symm

/-- Three spellings of one value. -/
theorem sameHex_trans {s t u : List Char} (h : sameHex s t = true) (h' : sameHex t u = true) :
    sameHex s u = true := by
  unfold sameHex eqIgnoreAsciiCase at *
  rw [beq_iff_eq] at *
  exact h.trans h'

/-- A text matches bytes when it spells them, up to prefix and case. -/
theorem hexMatches_iff {s : List Char} {bs : List UInt8} :
    hexMatches s bs = true ↔ (trimHex s).map Char.toLower = encodeHex bs := by
  unfold hexMatches eqIgnoreAsciiCase
  rw [beq_iff_eq, map_toLower_encodeHex]

/-- Matching bytes is agreeing with their text. -/
theorem sameHex_encodeHex (s : List Char) (bs : List UInt8) :
    sameHex (encodeHex bs) s = hexMatches s bs := by
  rw [Bool.eq_iff_iff, hexMatches_iff]
  unfold sameHex eqIgnoreAsciiCase
  rw [beq_iff_eq, trimHex_encodeHex, map_toLower_encodeHex]
  exact eq_comm

/-- A text names at most one list of bytes. -/
theorem hexMatches_unique {s : List Char} {bs bs' : List UInt8} (h : hexMatches s bs = true)
    (h' : hexMatches s bs' = true) : bs = bs' := by
  rw [hexMatches_iff] at h h'
  exact encodeHex_injective (h.symm.trans h')

/-- The prefix of a text does not matter. -/
theorem hexMatches_prefixed (s : List Char) (bs : List UInt8) :
    hexMatches ('0' :: 'x' :: s) bs = hexMatches s bs := rfl

/-- The digits match in any case. -/
theorem hexMatches_of_digits {s : List Char} {bs : List UInt8}
    (h : eqIgnoreAsciiCase s (encodeHex bs) = true) : hexMatches s bs = true := by
  unfold eqIgnoreAsciiCase at h
  rw [beq_iff_eq, map_toLower_encodeHex] at h
  rw [hexMatches_iff, trimHex_of_digits h, h]

/-- A text that matches has two digits for each byte. -/
theorem length_of_hexMatches {s : List Char} {bs : List UInt8} (h : hexMatches s bs = true) :
    2 * bs.length ≤ s.length := by
  have h_length := congrArg List.length (hexMatches_iff.mp h)
  rw [List.length_map, length_encodeHex] at h_length
  rw [← h_length]
  exact length_trimHex_le s

/-- Texts that agree match the same bytes. -/
theorem hexMatches_congr {s t : List Char} (h : sameHex s t = true) (bs : List UInt8) :
    hexMatches s bs = hexMatches t bs := by
  unfold sameHex eqIgnoreAsciiCase at h
  rw [Bool.eq_iff_iff, hexMatches_iff, hexMatches_iff, beq_iff_eq.mp h]

/-- What is read off a text is what it names. -/
theorem hexMatches_of_decodeHex {s : List Char} {bs : List UInt8}
    (h : decodeHex (trimHex s) = some bs) : hexMatches s bs = true := by
  rw [hexMatches_iff, encodeHex_of_decodeHex h]

end Hex
