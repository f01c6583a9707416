import ApiAtlas.Decimal.Binary64

/-!
# Shortest decimal digits

The decimal written for a double-precision number has the fewest digits that still round to it, and
among those the value nearest to it. The real numbers that round to a given number form an interval;
its ends belong to it exactly if the mantissa is even. For one digit, two digits and so on, the two
neighbours of the number on that decimal grid are tested until one of them lies in the interval.
-/

namespace ApiAtlas.Decimal

/-- The decimal `0.d₁d₂… · 10 ^ point`, where `digits` are the figures `d₁d₂…` as one number. -/
structure Digits where
  digits : Nat
  point : Int
  deriving DecidableEq, Repr

/-- A quotient of natural numbers, scaled by a power of ten: `num / den · 10 ^ shift`. -/
def scaled (num den : Nat) (shift : Int) : Nat × Nat :=
  if 0 ≤ shift then (num * Nat.pow 10 shift.toNat, den) else (num, den * Nat.pow 10 (-shift).toNat)

/-- The numerators, over one denominator, of the lower end, the value and the upper end of the
interval that rounds to `mantissa · 2 ^ exponent`, together with that denominator. -/
def interval (mantissa : Nat) (exponent : Int) : Nat × Nat × Nat × Nat :=
  let narrow := mantissa == Nat.pow 2 (Binary64.precision - 1) && Binary64.minExponent < exponent
  let low := if narrow then 4 * mantissa - 1 else 4 * mantissa - 2
  let value := 4 * mantissa
  let high := 4 * mantissa + 2
  if 0 ≤ exponent then
    let power := Nat.pow 2 exponent.toNat
    (low * power, value * power, high * power, 4)
  else (low, value, high, 4 * Nat.pow 2 (-exponent).toNat)

/-- The number of digits before the decimal point of `num / den`, found from an estimate by binary
logarithms: the least `p` with `num / den < 10 ^ p`. -/
def pointOf (num den : Nat) : Int :=
  let estimate : Int := (((Nat.log2 num : Int) - Nat.log2 den) * 30103) / 100000
  let below := fun (p : Int) ↦
    let (n, d) := scaled num den (-p)
    n < d
  if below (estimate - 1) then estimate - 1
  else if below estimate then estimate
  else if below (estimate + 1) then estimate + 1
  else estimate + 2

/-- Removes trailing zeros from a number of figures. -/
def stripZeros (n : Nat) : Nat :=
  if h : n ≠ 0 ∧ n % 10 = 0 then stripZeros (n / 10) else n
termination_by n
decreasing_by omega

/-- Tests the two neighbours of the value on the grid of `count` digits. -/
def onGrid? (low value high den : Nat) (closed : Bool) (point : Int) (count : Nat) : Option Nat :=
  let shift : Int := count - point
  let at_ := fun (n : Nat) ↦ scaled n den shift
  let (v, d) := at_ value
  let floor := v / d
  let inside := fun (c : Nat) ↦
    let (l, ld) := at_ low
    let (h, hd) := at_ high
    if closed then l ≤ c * ld && c * hd ≤ h else l < c * ld && c * hd < h
  match inside floor && floor != 0, inside (floor + 1) with
  | false, false => none
  | true, false => some floor
  | false, true => some (floor + 1)
  | true, true =>
    let down := v - floor * d
    let up := (floor + 1) * d - v
    if down < up then some floor
    else if up < down then some (floor + 1)
    else if floor % 2 == 0 then some floor
    else some (floor + 1)

/-- The first grid with a hit, from `count` digits on. -/
def searchGrid (low value high den : Nat) (closed : Bool) (point : Int) :
    (budget count : Nat) → Nat × Nat
  | 0, count => (value / den, count)
  | budget + 1, count =>
    match onGrid? low value high den closed point count with
    | some c => (c, count)
    | none => searchGrid low value high den closed point budget (count + 1)

/-- The shortest decimal that rounds to a number, without its sign. -/
def shortest (x : Binary64) : Digits :=
  if x.mantissa == 0 then ⟨0, 1⟩
  else
    let (low, value, high, den) := interval x.mantissa x.exponent
    let point := pointOf value den
    let (c, count) := searchGrid low value high den (x.mantissa % 2 == 0) point 17 1
    let carried := digitCount c - count
    ⟨stripZeros c, point + carried⟩

end ApiAtlas.Decimal
