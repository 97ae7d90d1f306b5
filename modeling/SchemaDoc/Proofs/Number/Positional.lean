-- SUMMARY: Finite numbers are written in positional notation, without zeros that lead.
import SchemaDoc.Number.Shortest
import SchemaDoc.Proofs.Sdl.Literals

/-!
# Positional notation

The text of a finite number is a sign, digits that do not start with a superfluous
zero, and after a point at least one further digit or nothing at all. Zeros are
appended to the digits of a great number, so these may not be zero themselves:
fewer digits than the number has before the point never round it down to nothing.
-/

namespace SchemaDoc.Binary64

/-! ## Digits -/

/-- Digits of which the first is no zero unless it is the only one. -/
structure Numeral (cs : List Char) : Prop where
  digits : ∀ d ∈ cs, d.isDigit = true
  nonempty : cs ≠ []
  leading : cs = ['0'] ∨ cs.head? ≠ some '0'

/-- A numeral, and after a point further digits or nothing. -/
inductive Positional : List Char → Prop where
  | whole {cs : List Char} (h : Numeral cs) : Positional cs
  | fraction {cs ds : List Char} (h : Numeral cs) (hne : ds ≠ []) (hds : ∀ d ∈ ds, d.isDigit = true) :
    Positional (cs ++ '.' :: ds)

/-- What follows the digits before the point is the point and further digits. -/
theorem Positional.exists_append {cs : List Char} (h : Positional cs) :
    ∃ whole rest, cs = whole ++ rest ∧ Numeral whole ∧ ∀ d ∈ rest, d = '.' ∨ d.isDigit = true := by
  cases h with
  | whole h => exact ⟨_, [], (List.append_nil _).symm, h, fun _ hd => nomatch hd⟩
  | fraction h hne hds =>
    exact ⟨_, _, rfl, h, List.forall_mem_cons.2 ⟨.inl rfl, fun d hd => .inr (hds d hd)⟩⟩

theorem numeral_zero : Numeral ['0'] :=
  ⟨List.forall_mem_singleton.2 rfl, List.cons_ne_nil _ _, .inl rfl⟩

theorem numeral_toDigits (n : Nat) : Numeral (Nat.toDigits 10 n) where
  digits := Sdl.isDigit_of_mem_toDigits
  nonempty := Nat.toDigits_ne_nil
  leading := by
    rcases Nat.eq_zero_or_pos n with rfl | hpos
    · exact .inl rfl
    · exact .inr (Sdl.head?_toDigits hpos)

theorem Numeral.append {cs ds : List Char} (h : Numeral cs) (hzero : cs ≠ ['0'])
    (hds : ∀ d ∈ ds, d.isDigit = true) : Numeral (cs ++ ds) where
  digits := List.forall_mem_append.2 ⟨h.digits, hds⟩
  nonempty := List.append_ne_nil_of_left_ne_nil h.nonempty ds
  leading := by
    obtain ⟨c, rest, rfl⟩ := List.exists_cons_of_ne_nil h.nonempty
    exact .inr (h.leading.resolve_left hzero)

/-- Digits that are cut off at the end leave a numeral. -/
theorem Numeral.take {cs : List Char} (h : Numeral cs) {count : Nat} (hcount : 0 < count) :
    Numeral (cs.take count) := by
  obtain ⟨c, rest, rfl⟩ := List.exists_cons_of_ne_nil h.nonempty
  obtain ⟨more, rfl⟩ : ∃ more, count = more + 1 := ⟨count - 1, by omega⟩
  rw [List.take_succ_cons]
  refine ⟨fun d hd => h.digits d ?_, List.cons_ne_nil _ _, ?_⟩
  · exact List.cons_subset_cons c (List.take_subset more rest) hd
  · rcases h.leading with hzero | hhead
    · obtain ⟨rfl, rfl⟩ := List.cons.inj hzero
      exact .inl (by rw [List.take_nil])
    · exact .inr hhead

/-! ## Decimals -/

/-- Digits with so many zeros before them that one stands before the point. -/
def Decimal.padded (d : Decimal) : List Char :=
  List.replicate ((-d.exponent).toNat + 1 - (Nat.toDigits 10 d.digits).length) '0' ++ Nat.toDigits 10 d.digits

theorem isDigit_of_mem_padded {d : Decimal} : ∀ c ∈ d.padded, c.isDigit = true := by
  intro c hc
  rcases List.mem_append.1 hc with hzero | hdigit
  · rw [List.eq_of_mem_replicate hzero]
    rfl
  · exact Sdl.isDigit_of_mem_toDigits c hdigit

/-- Before the point stand the leading digits, or one zero. -/
theorem numeral_take_padded (d : Decimal) :
    Numeral (d.padded.take (d.padded.length - (-d.exponent).toNat)) := by
  have hdigits : (Nat.toDigits 10 d.digits).length ≤ (-d.exponent).toNat ∨
      (-d.exponent).toNat < (Nat.toDigits 10 d.digits).length := by omega
  rcases hdigits with hfew | hmany
  · -- All digits stand behind the point.
    obtain ⟨zeros, hzeros⟩ : ∃ zeros, (-d.exponent).toNat + 1 - (Nat.toDigits 10 d.digits).length = zeros + 1 :=
      ⟨(-d.exponent).toNat - (Nat.toDigits 10 d.digits).length, by omega⟩
    have hlength : d.padded.length - (-d.exponent).toNat = 1 := by
      rw [Decimal.padded, List.length_append, List.length_replicate]
      omega
    have htake : d.padded.take 1 = ['0'] := by
      rw [Decimal.padded, hzeros, List.replicate_succ]
      rfl
    rw [hlength, htake]
    exact numeral_zero
  · have hpadded : d.padded = Nat.toDigits 10 d.digits := by
      have hnone : (-d.exponent).toNat + 1 - (Nat.toDigits 10 d.digits).length = 0 := by omega
      rw [Decimal.padded, hnone]
      rfl
    rw [hpadded]
    exact (numeral_toDigits d.digits).take (by omega)

/-- A decimal is written in positional notation, if no zeros are appended to a zero. -/
theorem Decimal.positional_text (d : Decimal) (h : 0 < d.exponent → 0 < d.digits) :
    Positional d.text.toList := by
  unfold Decimal.text
  split
  · next hexponent =>
    rw [String.toList_ofList]
    rcases Nat.eq_zero_or_pos d.exponent.toNat with hzero | hpos
    · rw [hzero, List.replicate_zero, List.append_nil]
      exact .whole (numeral_toDigits d.digits)
    · refine .whole ((numeral_toDigits d.digits).append ?_ ?_)
      · intro hzero
        exact Sdl.head?_toDigits (h (by omega)) (by rw [hzero]; rfl)
      · intro c hc
        rw [List.eq_of_mem_replicate hc]
        rfl
  · have hwhole := numeral_take_padded d
    have hfraction : ∀ c ∈ ((d.padded.drop (d.padded.length - (-d.exponent).toNat)).reverse.dropWhile
        (· == '0')).reverse, c.isDigit = true := by
      intro c hc
      have hdrop := List.mem_reverse.1 ((List.dropWhile_subset _) (List.mem_reverse.1 hc))
      exact isDigit_of_mem_padded c (List.mem_of_mem_drop hdrop)
    rw [String.toList_ofList]
    split
    · exact .whole hwhole
    · next hne => exact .fraction hwhole (by simpa using hne) hfraction

/-! ## Shortest decimals -/

theorem tenTo_add (m n : Nat) : tenTo (m + n) = tenTo m * tenTo n :=
  Nat.pow_add 10 m n

theorem tenTo_pos (n : Nat) : 0 < tenTo n :=
  Nat.pow_pos (by decide)

theorem twoTo_pos (n : Nat) : 0 < twoTo n :=
  Nat.pow_pos (by decide)

/-- A number with more digits before the point than are asked for exceeds the power of ten of the others. -/
theorem le_of_magnitude {num den places : Nat} (hden : 0 < den) (hplaces : 0 < places)
    (h : 0 < magnitude num den - places) : den * tenTo (magnitude num den - places).toNat ≤ num := by
  obtain ⟨rest, hrest⟩ : ∃ rest, (magnitude num den - places).toNat = rest := ⟨_, rfl⟩
  have hlength : ¬ (Nat.toDigits 10 (num * tenTo 340 / den)).length ≤ 340 + rest := by
    unfold magnitude at h hrest
    omega
  have hscaled : tenTo (340 + rest) ≤ num * tenTo 340 / den := by
    rw [Nat.length_toDigits_le_iff (by decide) (by omega)] at hlength
    exact Nat.le_of_not_lt hlength
  rw [Nat.le_div_iff_mul_le hden, tenTo_add, Nat.mul_assoc, Nat.mul_comm num] at hscaled
  rw [hrest, Nat.mul_comm den]
  exact Nat.le_of_mul_le_mul_left hscaled (tenTo_pos 340)

/-- Of two neighbouring decimals one is taken, or none. -/
theorem nearest_cases (i : Interval) (floor : Nat) (exponent : Int) :
    i.nearest floor exponent = none ∨ i.nearest floor exponent = some ⟨floor, exponent⟩ ∨
      i.nearest floor exponent = some ⟨floor + 1, exponent⟩ := by
  unfold Interval.nearest
  dsimp only
  split
  · split
    · exact .inr (.inl rfl)
    · exact .inr (.inr rfl)
  · exact .inr (.inl rfl)
  · exact .inr (.inr rfl)
  · exact .inl rfl

/-- A decimal on a grid before the point is not zero. -/
theorem digits_pos_of_onGrid {i : Interval} {places : Nat} (hden : 0 < i.den) (hplaces : 0 < places)
    {d : Decimal} (h : onGrid i places = some d) (hexponent : 0 < d.exponent) : 0 < d.digits := by
  rw [onGrid] at h
  rcases nearest_cases i (i.floor (magnitude i.value i.den - places)) (magnitude i.value i.den - places) with
    hnone | hbelow | habove
  · rw [hnone] at h
    cases h
  · rw [hbelow, Option.some.injEq] at h
    rw [← h] at hexponent ⊢
    have hle := le_of_magnitude hden hplaces hexponent
    have hfloor : i.floor (magnitude i.value i.den - places) =
        i.value / (i.den * tenTo (magnitude i.value i.den - places).toNat) :=
      if_neg (Int.not_lt.2 (Int.le_of_lt hexponent))
    rw [hfloor]
    exact Nat.div_pos hle (Nat.mul_pos hden (tenTo_pos _))
  · rw [habove, Option.some.injEq] at h
    rw [← h]
    exact Nat.succ_pos _

theorem positional_shortest (mantissa : Nat) (exponent : Int) :
    Positional (shortest mantissa exponent).text.toList := by
  apply Decimal.positional_text
  rw [shortest]
  cases hfound : (List.range 18).findSome? fun places =>
      if places = 0 then none else onGrid (interval mantissa exponent) places with
  | none => exact fun hexponent => absurd hexponent (Int.lt_irrefl 0)
  | some d =>
    obtain ⟨places, -, hgrid⟩ := List.exists_of_findSome?_eq_some hfound
    split at hgrid
    · cases hgrid
    · next hplaces => exact digits_pos_of_onGrid (twoTo_pos _) (Nat.pos_of_ne_zero hplaces) hgrid

/-- The characters of a sign. -/
def signChars (negative : Bool) : List Char :=
  if negative then ['-'] else []

/-- The text of a finite number is a sign and positional notation. -/
theorem exists_positional_text (negative : Bool) (mantissa : Nat) (exponent : Int) :
    ∃ cs, Positional cs ∧ (Binary64.finite negative mantissa exponent).text.toList = signChars negative ++ cs := by
  refine ⟨(if mantissa = 0 then "0" else (shortest mantissa exponent).text).toList, ?_, ?_⟩
  · split
    · exact .whole numeral_zero
    · exact positional_shortest mantissa exponent
  · rw [text, String.toList_append]
    cases negative <;> rfl

end SchemaDoc.Binary64
