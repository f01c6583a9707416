import ApiAtlas.Decimal.Stepwise
import ApiAtlas.Json.Basic
import ApiAtlas.Keyed

/-!
# Reading JSON

`Json.parse?` reads a JSON text that holds exactly one value. A number without point and exponent
that fits 64 bits is an integer; any other number is read to double precision in steps. The nesting
of values is bounded by the length of the text, which gives the budget of the recursion.
-/

namespace ApiAtlas.Json

/-- Blanks between the tokens of a JSON text. -/
def isSpace (c : Char) : Bool :=
  c == ' ' || c == '\n' || c == '\r' || c == '\t'

/-- Drops leading blanks. -/
def skipSpace (cs : List Char) : List Char :=
  cs.dropWhile isSpace

/-- The value of a hexadecimal digit. -/
def hexValue? (c : Char) : Option Nat :=
  if c.isDigit then some (c.toNat - '0'.toNat)
  else if 'a' ≤ c && c ≤ 'f' then some (c.toNat - 'a'.toNat + 10)
  else if 'A' ≤ c && c ≤ 'F' then some (c.toNat - 'A'.toNat + 10)
  else none

/-- The number that four hexadecimal digits denote. -/
def hexUnit? (a b c d : Char) : Option Nat := do
  let a ← hexValue? a
  let b ← hexValue? b
  let c ← hexValue? c
  let d ← hexValue? d
  return ((a * 16 + b) * 16 + c) * 16 + d

/-- The character of a simple escape. -/
def simpleEscape? (c : Char) : Option Char :=
  [('"', '"'), ('\\', '\\'), ('/', '/'), ('b', '\x08'), ('f', '\x0c'), ('n', '\n'), ('r', '\r'),
    ('t', '\t')].lookup c

/-- The character of a surrogate pair. -/
def pairChar? (high low : Nat) : Option Char :=
  if 0xD800 ≤ high && high < 0xDC00 && 0xDC00 ≤ low && low < 0xE000 then
    some (Char.ofNat (0x10000 + (high - 0xD800) * 0x400 + (low - 0xDC00)))
  else none

/-- Reads the rest of a string after its opening quote, collecting characters in reverse. A first
half of a surrogate pair waits in `high`. -/
def stringFrom? (acc : List Char) (high : Option Nat) : List Char → Option (String × List Char)
  | '\\' :: 'u' :: a :: b :: c :: d :: rest =>
    match hexUnit? a b c d, high with
    | none, _ => none
    | some unit, none =>
      if 0xD800 ≤ unit && unit < 0xDC00 then stringFrom? acc (some unit) rest
      else stringFrom? (Char.ofNat unit :: acc) none rest
    | some unit, some first =>
      match pairChar? first unit with
      | some char => stringFrom? (char :: acc) none rest
      | none => none
  | '"' :: rest => if high.isNone then some (String.ofList acc.reverse, rest) else none
  | '\\' :: c :: rest =>
    match simpleEscape? c, high with
    | some char, none => stringFrom? (char :: acc) none rest
    | _, _ => none
  | c :: rest => if high.isNone then stringFrom? (c :: acc) none rest else none
  | [] => none

/-- Reads a string after its opening quote. -/
def stringBody? (cs : List Char) : Option (String × List Char) :=
  stringFrom? [] none cs

/-- Whether a character may stand in a number. -/
def isNumberChar (c : Char) : Bool :=
  c.isDigit || c == '-' || c == '+' || c == '.' || c == 'e' || c == 'E'

/-- The number that a numeral denotes. -/
def ofNumeral? (cs : List Char) : Option Number :=
  let plain := cs.all fun c ↦ c.isDigit || c == '-'
  match plain, Decimal.integer? cs with
  | true, some value =>
    if cs != ['-', '0'] && (Decimal.isSigned64 value || Decimal.isUnsigned64 value) then
      some (.int value)
    else (Decimal.readStepwise? cs).map .real
  | _, _ => (Decimal.readStepwise? cs).map .real

mutual

/-- Reads one value. -/
def value? : (budget : Nat) → List Char → Option (Json × List Char)
  | 0, _ => none
  | budget + 1, cs =>
    match skipSpace cs with
    | 'n' :: 'u' :: 'l' :: 'l' :: rest => some (.null, rest)
    | 't' :: 'r' :: 'u' :: 'e' :: rest => some (.bool true, rest)
    | 'f' :: 'a' :: 'l' :: 's' :: 'e' :: rest => some (.bool false, rest)
    | '"' :: rest => (stringBody? rest).map fun (s, rest) ↦ (.string s, rest)
    | '[' :: rest =>
      match skipSpace rest with
      | ']' :: rest => some (.array [], rest)
      | rest => (items? budget rest).map fun (items, rest) ↦ (.array items, rest)
    | '\x7b' :: rest =>
      match skipSpace rest with
      | '\x7d' :: rest => some (.object [], rest)
      | rest =>
        (members? budget rest).map fun (members, rest) ↦ (.object (Keyed.ofList members), rest)
    | c :: rest =>
      if isNumberChar c then
        let numeral := (c :: rest).takeWhile isNumberChar
        (ofNumeral? numeral).map fun n ↦ (.number n, (c :: rest).dropWhile isNumberChar)
      else none
    | [] => none

/-- Reads the items of an array up to its closing bracket. -/
def items? : (budget : Nat) → List Char → Option (List Json × List Char)
  | 0, _ => none
  | budget + 1, cs =>
    match value? budget cs with
    | none => none
    | some (item, rest) =>
      match skipSpace rest with
      | ',' :: rest => (items? budget rest).map fun (items, rest) ↦ (item :: items, rest)
      | ']' :: rest => some ([item], rest)
      | _ => none

/-- Reads the members of an object up to its closing brace. -/
def members? : (budget : Nat) → List Char → Option (List (String × Json) × List Char)
  | 0, _ => none
  | budget + 1, cs =>
    match skipSpace cs with
    | '"' :: rest =>
      match stringBody? rest with
      | none => none
      | some (key, rest) =>
        match skipSpace rest with
        | ':' :: rest =>
          match value? budget rest with
          | none => none
          | some (value, rest) =>
            match skipSpace rest with
            | ',' :: rest =>
              (members? budget rest).map fun (members, rest) ↦ ((key, value) :: members, rest)
            | '\x7d' :: rest => some ([(key, value)], rest)
            | _ => none
        | _ => none
    | _ => none

end

/-- Reads a JSON text. -/
def parse? (text : String) : Option Json :=
  let cs := text.toList
  match value? (2 * cs.length + 2) cs with
  | some (json, rest) => if (skipSpace rest).isEmpty then some json else none
  | none => none

end ApiAtlas.Json
