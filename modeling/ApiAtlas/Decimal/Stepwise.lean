import ApiAtlas.Decimal.Notation

/-!
# Reading decimals in steps

A numeral can be read with two roundings instead of one: its leading digits are gathered into a
64-bit significand, which is rounded to double precision, and the result is multiplied or divided by
a power of ten, which rounds again. Where both steps are exact or only one of them rounds, this is
the number nearest to the numeral; otherwise the last place may differ.
-/

namespace ApiAtlas.Decimal

namespace Binary64

/-- The numerator of the absolute value, over `denominator`. -/
def numerator (x : Binary64) : Nat :=
  x.mantissa * Nat.pow 2 x.exponent.toNat

/-- The power of two that divides `numerator`. -/
def denominator (x : Binary64) : Nat :=
  Nat.pow 2 (-x.exponent).toNat

/-- The product of two numbers, rounded. -/
def mul? (a b : Binary64) : Option Binary64 :=
  ofRatio? (a.negative != b.negative) (a.numerator * b.numerator) (a.denominator * b.denominator)

/-- The quotient of two numbers, the second of them not zero, rounded. -/
def div? (a b : Binary64) : Option Binary64 :=
  ofRatio? (a.negative != b.negative) (a.numerator * b.denominator) (a.denominator * b.numerator)

/-- The greatest power of ten of the format. -/
def maxPower : Nat := 308

/-- A power of ten, rounded. -/
def power? (exponent : Nat) : Option Binary64 :=
  ofDecimal? false 1 exponent

/-- Divides repeatedly by the greatest power of ten. Once the value is zero it stays so. -/
def lower? : (steps : Nat) → Binary64 → Option Binary64
  | 0, x => some x
  | steps + 1, x =>
    if x.mantissa == 0 then some x
    else ((power? maxPower).bind x.div?).bind (lower? steps)

/-- A number times a power of ten. -/
def scale? (x : Binary64) (exponent : Int) : Option Binary64 :=
  if x.mantissa == 0 then some x
  else if 0 ≤ exponent then
    if maxPower < exponent then none else (power? exponent.toNat).bind x.mul?
  else
    let steps := (exponent.natAbs - 1) / maxPower
    (lower? steps x).bind fun y ↦ (power? (exponent.natAbs - maxPower * steps)).bind y.div?

end Binary64

/-- The value of a decimal digit. -/
def digitValue (c : Char) : Nat :=
  c.toNat - '0'.toNat

/-- Appends digits to a significand as long as it fits into 64 bits; also, how many digits are left
over. -/
def gather (significand : Nat) : List Char → Nat × Nat
  | [] => (significand, 0)
  | c :: rest =>
    let next := 10 * significand + digitValue c
    if next < Nat.pow 2 64 then gather next rest else (significand, rest.length + 1)

/-- The number that a numeral gives in steps. Digits left over before the point raise the exponent,
those after it are dropped. Fails where the value is too large for the format. -/
def Numeral.stepwise? (n : Numeral) : Option Binary64 :=
  let (significand, skipped) := gather 0 n.whole
  let (significand, dropped) := gather significand n.fraction
  let exponent := n.exponent + skipped - (n.fraction.length - dropped : Nat)
  ((Binary64.ofRatio? false significand 1).bind fun x ↦ x.scale? exponent).map fun x ↦
    { x with negative := n.negative }

/-- Reads a numeral in steps. -/
def readStepwise? (cs : List Char) : Option Binary64 :=
  (Numeral.parse? cs).bind Numeral.stepwise?

end ApiAtlas.Decimal
