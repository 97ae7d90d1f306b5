-- SUMMARY: Binary floating-point numbers of 64 bits, and rounding decimals to them.

/-!
# Binary floating point

A finite number is a sign and `mantissa * 2 ^ exponent` with a mantissa below
`2 ^ 53`. Numbers are read from decimal texts by exact arithmetic on naturals:
of the two neighbours the nearer one is taken, and of two equally near ones the
one with the even mantissa.
-/

namespace SchemaDoc

/-- A number of 64 bits that is not NaN. -/
inductive Binary64 where
  | finite (negative : Bool) (mantissa : Nat) (exponent : Int)
  | infinite (negative : Bool)
  deriving DecidableEq, Repr, Inhabited

namespace Binary64

/-- A power of two. -/
def twoTo (n : Nat) : Nat := Nat.pow 2 n

/-- A power of ten. -/
def tenTo (n : Nat) : Nat := Nat.pow 10 n

/-- The least exponent of a finite number. -/
def minExponent : Int := -1074

/-- The greatest exponent of a finite number. -/
def maxExponent : Int := 971

/-- The quotient rounded to the nearest natural number, to the even one if two are equally near. -/
def roundDiv (num den : Nat) : Nat :=
  let quotient := num / den
  let remainder := num % den
  if 2 * remainder < den then quotient
  else if den < 2 * remainder then quotient + 1
  else quotient + quotient % 2

/-- The exponent with which `num / den` has a mantissa of 53 bits, but no less than the least one. -/
def exponentOf (num den : Nat) : Int :=
  let estimate : Int := Int.ofNat num.log2 - Int.ofNat den.log2 - 53
  -- The estimate may be one too low; then the scaled quotient has 54 bits.
  let fits := if 0 ≤ estimate then num < den * twoTo (53 + estimate.toNat)
    else num * twoTo (-estimate).toNat < den * twoTo 53
  let exponent := if fits then estimate else estimate + 1
  max exponent minExponent

/-- The number nearest to `num / den`. -/
def ofRatio (negative : Bool) (num den : Nat) : Binary64 :=
  let exponent := exponentOf num den
  let mantissa :=
    if 0 ≤ exponent then roundDiv num (den * twoTo exponent.toNat)
    else roundDiv (num * twoTo (-exponent).toNat) den
  let (mantissa, exponent) :=
    if mantissa = twoTo 53 then (twoTo 52, exponent + 1) else (mantissa, exponent)
  if maxExponent < exponent then .infinite negative else .finite negative mantissa exponent

/--
The number nearest to `digits * 10 ^ exponent`. Beyond 400 decimal places on
either side every number is infinite or zero, so no greater power is computed.
-/
def ofDecimal (negative : Bool) (digits : Nat) (exponent : Int) : Binary64 :=
  let places : Int := (Nat.toDigits 10 digits).length
  if digits = 0 || exponent + places < -400 then .finite negative 0 minExponent
  else if 400 < exponent + places then .infinite negative
  else if 0 ≤ exponent then ofRatio negative (digits * tenTo exponent.toNat) 1
  else ofRatio negative digits (tenTo (-exponent).toNat)

end Binary64

end SchemaDoc
