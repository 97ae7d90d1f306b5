-- SUMMARY: The fewest digits that read back as a binary number.
import SchemaDoc.Number.Binary64

/-!
# Shortest decimal text

Of all decimals that round to a given binary number, the one with the fewest
digits is printed, and of several with that many digits the nearest; of two
equally near ones the greater. The text is positional, without an exponent and
without a fraction of zero.
-/

namespace SchemaDoc.Binary64

/-- A decimal number `digits * 10 ^ exponent`. -/
structure Decimal where
  digits : Nat
  exponent : Int
  deriving Repr, DecidableEq

/-- `num / den ≤ digits * 10 ^ exponent`, or strictly less where the end is left out. -/
def reaches (num den : Nat) (closed : Bool) (d : Decimal) : Bool :=
  let left := if d.exponent < 0 then num * tenTo (-d.exponent).toNat else num
  let right := den * d.digits * (if d.exponent < 0 then 1 else tenTo d.exponent.toNat)
  left < right || (closed && left == right)

/-- `digits * 10 ^ exponent ≤ num / den`, or strictly less where the end is left out. -/
def stays (num den : Nat) (closed : Bool) (d : Decimal) : Bool :=
  let right := if d.exponent < 0 then num * tenTo (-d.exponent).toNat else num
  let left := den * d.digits * (if d.exponent < 0 then 1 else tenTo d.exponent.toNat)
  left < right || (closed && left == right)

/-- The reals that round to a number, over a common denominator. -/
structure Interval where
  lower : Nat
  value : Nat
  upper : Nat
  den : Nat
  closed : Bool

/--
The interval reaches half-way to the neighbours. Below a power of two the lower
neighbour is only half as far away. The ends round to an even mantissa.
-/
def interval (mantissa : Nat) (exponent : Int) : Interval :=
  let narrow := mantissa == twoTo 52 && decide (minExponent < exponent)
  let unit := twoTo (exponent - 2).toNat
  { lower := (if narrow then 4 * mantissa - 1 else 4 * mantissa - 2) * unit
    value := 4 * mantissa * unit
    upper := (4 * mantissa + 2) * unit
    den := twoTo (2 - exponent).toNat
    closed := mantissa % 2 == 0 }

/-- The greatest `k` with `10 ^ (k - 1) ≤ num / den`; every positive binary number exceeds `10 ^ -340`. -/
def magnitude (num den : Nat) : Int :=
  (Nat.toDigits 10 (num * tenTo 340 / den)).length - 340

/-- The digits of the value down to a place, without those behind it. -/
def Interval.floor (i : Interval) (exponent : Int) : Nat :=
  if exponent < 0 then i.value * tenTo (-exponent).toNat / i.den
  else i.value / (i.den * tenTo exponent.toNat)

/-- Of two neighbouring decimals around the value the nearer one, as far as they lie in the interval. -/
def Interval.nearest (i : Interval) (floor : Nat) (exponent : Int) : Option Decimal :=
  let below : Decimal := ⟨floor, exponent⟩
  let above : Decimal := ⟨floor + 1, exponent⟩
  let middle : Decimal := ⟨(2 * floor + 1) * 5, exponent - 1⟩
  match reaches i.lower i.den i.closed below, stays i.upper i.den i.closed above with
  | true, true => if reaches i.value i.den false middle then some below else some above
  | true, false => some below
  | false, true => some above
  | false, false => none

/-- The decimal with `places` digits that is nearest to the number, if one lies in the interval. -/
def onGrid (i : Interval) (places : Nat) : Option Decimal :=
  let exponent := magnitude i.value i.den - places
  i.nearest (i.floor exponent) exponent

/-- The shortest decimal of a positive number; seventeen digits always suffice. -/
def shortest (mantissa : Nat) (exponent : Int) : Decimal :=
  let i := interval mantissa exponent
  ((List.range 18).findSome? (fun places => if places = 0 then none else onGrid i places)).getD ⟨0, 0⟩

/-- Positional notation, without a fraction of zero. -/
def Decimal.text (d : Decimal) : String :=
  if 0 ≤ d.exponent then String.ofList (Nat.toDigits 10 d.digits ++ List.replicate d.exponent.toNat '0')
  else
    let places := (-d.exponent).toNat
    let digits := Nat.toDigits 10 d.digits
    let padded := List.replicate (places + 1 - digits.length) '0' ++ digits
    let whole := padded.take (padded.length - places)
    let fraction := (padded.drop (padded.length - places)).reverse.dropWhile (· == '0')
    String.ofList (if fraction.isEmpty then whole else whole ++ '.' :: fraction.reverse)

/-- The text of a number; the sign of zero is kept. -/
def text : Binary64 → String
  | .infinite negative => if negative then "-inf" else "inf"
  | .finite negative mantissa exponent =>
    (if negative then "-" else "") ++
      (if mantissa = 0 then "0" else (shortest mantissa exponent).text)

end SchemaDoc.Binary64
