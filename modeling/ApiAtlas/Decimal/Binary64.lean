/-!
# Double-precision numbers

A finite double-precision number is a sign, a mantissa and a binary exponent. `ofRatio?` rounds a
quotient of natural numbers to the nearest such number, halves to the even mantissa, and
`ofDecimal?` does so for a decimal numeral; both fail where the value is beyond the largest finite
number.
-/

namespace ApiAtlas.Decimal

/-- The number `±mantissa · 2 ^ exponent`. Numbers built by rounding are in normal form: the
exponent is at least `-1074`, and above that the mantissa has 53 binary digits. -/
structure Binary64 where
  negative : Bool
  mantissa : Nat
  exponent : Int
  deriving DecidableEq, Repr, Inhabited

namespace Binary64

/-- The least binary exponent. -/
def minExponent : Int := -1074

/-- The greatest binary exponent of a finite number. -/
def maxExponent : Int := 971

/-- The number of binary digits of a mantissa. -/
def precision : Nat := 53

/-- Zero with a sign. -/
def zero (negative : Bool) : Binary64 :=
  ⟨negative, 0, minExponent⟩

end Binary64

/-- A quotient rounded to the nearest natural number, halves to the even one. -/
def roundDiv (num den : Nat) : Nat :=
  let q := num / den
  let twice := 2 * (num % den)
  if twice < den then q else if den < twice then q + 1 else if q % 2 == 0 then q else q + 1

/-- `num / den` rounded in units of `2 ^ exponent`. -/
def roundAt (num den : Nat) (exponent : Int) : Nat :=
  if 0 ≤ exponent then roundDiv num (den * Nat.pow 2 exponent.toNat)
  else roundDiv (num * Nat.pow 2 (-exponent).toNat) den

/-- Whether `num / den` has fewer binary digits than a mantissa in units of `2 ^ exponent`. -/
def isShortAt (num den : Nat) (exponent : Int) : Bool :=
  let limit := Nat.pow 2 (Binary64.precision - 1)
  if 0 ≤ exponent then num < limit * (den * Nat.pow 2 exponent.toNat)
  else num * Nat.pow 2 (-exponent).toNat < limit * den

/-- The double-precision number nearest to `±num / den`. -/
def Binary64.ofRatio? (negative : Bool) (num den : Nat) : Option Binary64 :=
  if num == 0 then some (.zero negative)
  else
    let estimate : Int := (Nat.log2 num : Int) - Nat.log2 den - (precision - 1 : Nat)
    let exact := if isShortAt num den estimate then estimate - 1 else estimate
    let exponent := max exact minExponent
    let mantissa := roundAt num den exponent
    let (mantissa, exponent) :=
      if mantissa == Nat.pow 2 precision then (Nat.pow 2 (precision - 1), exponent + 1)
      else (mantissa, exponent)
    if maxExponent < exponent then none else some ⟨negative, mantissa, exponent⟩

/-- The number of decimal digits of a natural number. -/
def digitCount (n : Nat) : Nat :=
  (Nat.toDigits 10 n).length

/-- The double-precision number nearest to `±digits · 10 ^ exponent`. Exponents beyond the range of
the format are decided without computing the power. -/
def Binary64.ofDecimal? (negative : Bool) (digits : Nat) (exponent : Int) : Option Binary64 :=
  if digits == 0 then some (.zero negative)
  else
    let scale := (digitCount digits : Int) + exponent
    if 310 < scale then none
    else if scale < -330 then some (.zero negative)
    else if 0 ≤ exponent then ofRatio? negative (digits * Nat.pow 10 exponent.toNat) 1
    else ofRatio? negative digits (Nat.pow 10 (-exponent).toNat)

end ApiAtlas.Decimal
