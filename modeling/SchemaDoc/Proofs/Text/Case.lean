-- SUMMARY: The small forms of letters and numbers have no ASCII characters but small letters and digits.
import SchemaDoc.Text.Case
import SchemaDoc.Text.Numeric

/-!
# Small forms

A capital letter beyond ASCII may have a small form within it: the Kelvin sign
becomes a `k`, and the capital I with a dot above an `i` with a combining dot.
Nothing else reaches back, so whatever stands for a separator in an address never
comes from a letter or a number.
-/

namespace SchemaDoc.Text

/-- All that small forms have within ASCII. -/
def isSmallAscii (c : Char) : Bool :=
  c.isLower || c.isDigit

/-- A code point that is no ASCII character, or a small letter. -/
def isSmallCodePoint (n : Nat) : Prop :=
  n.isValidChar ∧ (128 ≤ n ∨ 97 ≤ n ∧ n ≤ 122)

theorem lowered_ascii_table : ∀ n < 128, isAlphanumeric (Char.ofNat n) = true →
    isSmallAscii (Char.ofNat n).toLower = true := by
  decide +kernel

theorem isSmallAscii_toLower {c : Char} (hc : isAlphanumeric c = true) (hlow : c.toNat < 128) :
    isSmallAscii c.toLower = true := by
  have htable := lowered_ascii_table c.toNat hlow
  rw [Char.ofNat_toNat] at htable
  exact htable hc

/--
The runs of shifted code points, each of which stays clear of the surrogates and,
unless it is a single letter, of ASCII.
-/
theorem shifts_table : ∀ shift ∈ shifts,
    (128 ≤ shift.span.first + shift.distance ∧ shift.span.last + shift.distance < 0xD800) ∨
      (0xE000 ≤ shift.span.first + shift.distance ∧ shift.span.last + shift.distance < 0x110000) ∨
        (97 ≤ shift.span.first + shift.distance ∧ shift.span.last + shift.distance ≤ 122) := by
  decide +kernel

theorem isSmallCodePoint_shift {shift : Shift} (h : shift ∈ shifts) {n : Nat}
    (hn : shift.span.holds n = true) : isSmallCodePoint (n + shift.distance).toNat := by
  simp only [Span.holds, Bool.and_eq_true, decide_eq_true_eq] at hn
  have htable := shifts_table shift h
  simp only [isSmallCodePoint, Nat.isValidChar]
  omega

theorem isSmallAscii_letter_table : ∀ n < 123, 97 ≤ n → isSmallAscii (Char.ofNat n) = true := by
  decide

theorem isSmallAscii_ofNat {n : Nat} (h : isSmallCodePoint n) (hlow : (Char.ofNat n).toNat < 128) :
    isSmallAscii (Char.ofNat n) = true := by
  have htoNat : (Char.ofNat n).toNat = n := by
    rw [Char.ofNat, dif_pos h.1]
    rfl
  rw [htoNat] at hlow
  have hletter : 97 ≤ n ∧ n ≤ 122 := h.2.resolve_left (by omega)
  exact isSmallAscii_letter_table n (by omega) hletter.1

/-- An ASCII character in the small form of a letter or number is a small letter or a digit. -/
theorem isSmallAscii_of_mem_lowered {c d : Char} (hc : isAlphanumeric c = true) (hd : d ∈ lowered c)
    (hlow : d.toNat < 128) : isSmallAscii d = true := by
  unfold lowered at hd
  split at hd
  · next hascii =>
    rw [List.mem_singleton.1 hd]
    exact isSmallAscii_toLower hc hascii
  next hbeyond =>
    split at hd
    · rcases List.mem_cons.1 hd with rfl | hdot
      · decide
      · rw [List.mem_singleton.1 hdot] at hlow
        exact absurd hlow (by decide)
    · split at hd
      · next shift hshift =>
        rw [List.mem_singleton.1 hd] at hlow ⊢
        have hholds := List.find?_some hshift
        exact isSmallAscii_ofNat (isSmallCodePoint_shift (List.mem_of_find?_eq_some hshift) hholds) hlow
      · rw [List.mem_singleton.1 hd] at hlow
        exact absurd hlow hbeyond

end SchemaDoc.Text
