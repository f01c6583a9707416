import ApiAtlas.Decimal.Shortest
import ApiAtlas.Text.Split

/-!
# Writing and reading decimals

The text of a double-precision number: positional notation in a middle range, otherwise one digit,
a point and the remaining digits before a power of ten. A layout says where the range ends and how
the exponent is marked. `read?` reads a numeral with an optional sign, point and exponent.
-/

namespace ApiAtlas.Decimal

/-- How the numbers of a format are written. -/
structure Layout where
  /-- The largest position of the point that is written positionally. -/
  maxPoint : Int
  /-- Positional notation is used for points above this one. -/
  minPoint : Int
  /-- What stands before a positive exponent. -/
  plus : String
  deriving Repr

/-- Digits of a natural number as a text. -/
def figures (n : Nat) : String :=
  toString n

/-- A number of zeros. -/
def zeros (n : Nat) : String :=
  String.ofList (List.replicate n '0')

/-- The text of an exponent. -/
def exponentText (layout : Layout) (e : Int) : String :=
  if e < 0 then "e-" ++ figures e.natAbs else "e" ++ layout.plus ++ figures e.natAbs

/-- The text of a positive decimal. -/
def writeDigits (layout : Layout) (d : Digits) : String :=
  let text := figures d.digits
  let count : Int := text.length
  if layout.minPoint < d.point && d.point ≤ layout.maxPoint then
    if count ≤ d.point then text ++ zeros (d.point - count).toNat ++ ".0"
    else if 0 < d.point then
      String.ofList (text.toList.take d.point.toNat) ++ "." ++
        String.ofList (text.toList.drop d.point.toNat)
    else "0." ++ zeros (-d.point).toNat ++ text
  else
    let tail := text.toList.drop 1
    let lead := String.ofList (text.toList.take 1)
    let mantissa := if tail.isEmpty then lead else lead ++ "." ++ String.ofList tail
    mantissa ++ exponentText layout (d.point - 1)

/-- The text of a number. -/
def write (layout : Layout) (x : Binary64) : String :=
  (if x.negative then "-" else "") ++ writeDigits layout (shortest x)

/-! ## Reading -/

/-- The value of a list of decimal digits. -/
def digitsValue (cs : List Char) : Nat :=
  cs.foldl (fun n c ↦ 10 * n + (c.toNat - '0'.toNat)) 0

/-- Reads one or more decimal digits that fill a text. -/
def natural? (cs : List Char) : Option Nat :=
  if !cs.isEmpty && cs.all Char.isDigit then some (digitsValue cs) else none

/-- Splits off a sign. -/
def sign (cs : List Char) : Bool × List Char :=
  match cs with
  | '-' :: rest => (true, rest)
  | '+' :: rest => (false, rest)
  | rest => (false, rest)

/-- Reads a natural number, with a plus sign allowed. -/
def unsigned? (cs : List Char) : Option Nat :=
  match cs with
  | '+' :: rest => natural? rest
  | rest => natural? rest

/-- Reads an integer with an optional sign. -/
def integer? (cs : List Char) : Option Int :=
  let (negative, rest) := sign cs
  (natural? rest).map fun n ↦ if negative then -(n : Int) else n

/-- Whether a number fits into 64 bits with a sign. -/
def isSigned64 (n : Int) : Bool :=
  -9223372036854775808 ≤ n && n ≤ 9223372036854775807

/-- Whether a number fits into 64 bits without a sign. -/
def isUnsigned64 (n : Int) : Bool :=
  0 ≤ n && n ≤ 18446744073709551615

/-- Reads the exponent part of a numeral, which may be missing. -/
def exponent? (cs : List Char) : Option Int :=
  match cs with
  | [] => some 0
  | c :: rest => if c == 'e' || c == 'E' then integer? rest else none

/-- The parts of a numeral. -/
structure Numeral where
  negative : Bool
  /-- The digits before the point. -/
  whole : List Char
  /-- The digits after the point. -/
  fraction : List Char
  exponent : Int

namespace Numeral

/-- Splits a text into the parts of a numeral: digits with an optional point, at least one of them,
and an optional exponent. -/
def parse? (cs : List Char) : Option Numeral :=
  let (negative, body) := sign cs
  let whole := body.takeWhile Char.isDigit
  let rest := body.dropWhile Char.isDigit
  let (fraction, rest) :=
    match rest with
    | '.' :: after => (after.takeWhile Char.isDigit, after.dropWhile Char.isDigit)
    | rest => ([], rest)
  if whole.isEmpty && fraction.isEmpty then none
  else (exponent? rest).map fun exponent ↦ ⟨negative, whole, fraction, exponent⟩

/-- The double-precision number nearest to a numeral. Fails where the value is too large for the
format. -/
def nearest? (n : Numeral) : Option Binary64 :=
  Binary64.ofDecimal? n.negative (digitsValue (n.whole ++ n.fraction))
    (n.exponent - n.fraction.length)

end Numeral

/-- Reads a numeral as the double-precision number nearest to it. -/
def read? (cs : List Char) : Option Binary64 :=
  (Numeral.parse? cs).bind Numeral.nearest?

end ApiAtlas.Decimal
