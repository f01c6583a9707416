import ApiAtlas.Decimal.Notation
import ApiAtlas.Text.Split

/-!
# Plain scalars of YAML

A scalar without quotes can stand for nothing, a truth value or a number instead of a text. The
tests below say which texts are taken that way.
-/

namespace ApiAtlas.Yaml

open Text

/-- Whether a plain scalar spells out that it stands for nothing. -/
def isNullWord (s : String) : Bool :=
  ["~", "null", "Null", "NULL"].contains s

/-- Whether a plain scalar stands for nothing. -/
def isNull (s : String) : Bool :=
  s.isEmpty || isNullWord s

/-- The truth value that a plain scalar stands for. -/
def bool? (s : String) : Option Bool :=
  if ["true", "True", "TRUE"].contains s then some true
  else if ["false", "False", "FALSE"].contains s then some false
  else none

/-! ## Numbers -/

/-- Whether a text begins with a sign. -/
def isSigned : List Char → Bool
  | c :: _ => c == '+' || c == '-'
  | [] => false

/-- A text without a plus sign at its start; a second sign may not follow. -/
def withoutPlus? : List Char → Option (List Char)
  | '+' :: rest => if isSigned rest then none else some rest
  | cs => some cs

/-- Digits with a zero before them, as in `007`, are a text and not a number. -/
def isPadded (cs : List Char) : Bool :=
  let digits :=
    match cs with
    | '+' :: rest => rest
    | '-' :: rest => rest
    | rest => rest
  match digits with
  | '0' :: rest => !rest.isEmpty && rest.all Char.isDigit
  | _ => false

/-- The value of a digit in any base up to sixteen. -/
def digit? (base : Nat) (c : Char) : Option Nat :=
  let value :=
    if '0' ≤ c ∧ c ≤ '9' then c.toNat - '0'.toNat
    else if 'a' ≤ c ∧ c ≤ 'f' then c.toNat - 'a'.toNat + 10
    else if 'A' ≤ c ∧ c ≤ 'F' then c.toNat - 'A'.toNat + 10
    else base
  if value < base then some value else none

/-- The value of one or more digits that fill a text. -/
def digits? (base : Nat) (cs : List Char) : Option Nat :=
  if cs.isEmpty then none
  else cs.foldlM (fun n c ↦ (digit? base c).map fun d ↦ base * n + d) 0

/-- The marks of the bases other than ten. -/
def bases : List (String × Nat) :=
  [("0x", 16), ("0o", 8), ("0b", 2)]

/-- Whether a text is a marked number of at most 128 bits. -/
def isMarkedNumber (cs : List Char) : Bool :=
  bases.any fun (mark, base) ↦
    let below := fun (lead : String) (body : List Char) (bound : Nat) ↦
      match (dropLead? lead.toList body).bind (digits? base) with
      | some n => n ≤ bound
      | none => false
    below mark (if cs.head? == some '+' then cs.drop 1 else cs) (Nat.pow 2 128 - 1) ||
      below ("-" ++ mark) cs (Nat.pow 2 127)

/-- Whether a text is infinite or not a number. -/
def isSpecialNumber (s : String) : Bool :=
  [".inf", ".Inf", ".INF", "+.inf", "+.Inf", "+.INF", "-.inf", "-.Inf", "-.INF",
    ".nan", ".NaN", ".NAN"].contains s

/-- Whether a plain scalar stands for a number. -/
def isNumber (s : String) : Bool :=
  let cs := s.toList
  isMarkedNumber cs || isSpecialNumber s ||
    (!isPadded cs && ((withoutPlus? cs).bind Decimal.read?).isSome)

/-- Whether a text without quotes could be taken for something else. -/
def isAmbiguous (s : String) : Bool :=
  isNull s || (bool? s).isSome || isNumber s || isPadded s.toList

end ApiAtlas.Yaml
