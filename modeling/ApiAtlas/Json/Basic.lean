import ApiAtlas.Decimal.Notation

/-!
# JSON values

The values of the JSON format. Numbers are integers or double-precision numbers, and the members of
an object keep their order.
-/

namespace ApiAtlas

/-- A number of the JSON format. -/
inductive Json.Number
  | int (value : Int)
  | real (value : Decimal.Binary64)
  deriving DecidableEq, Repr, Inhabited

/-- A JSON value. -/
inductive Json
  | null
  | bool (value : Bool)
  | number (value : Json.Number)
  | string (value : String)
  | array (items : List Json)
  | object (members : List (String × Json))
  deriving Repr, BEq, Inhabited

namespace Json

/-- An integer as a JSON value. -/
def ofInt (value : Int) : Json :=
  .number (.int value)

/-- A natural number as a JSON value. -/
def ofNat (value : Nat) : Json :=
  .number (.int value)

/-- The strings of a list as a JSON array. -/
def ofStrings (values : List String) : Json :=
  .array (values.map .string)

/-- The value of a member of an object. -/
def get? (json : Json) (key : String) : Option Json :=
  match json with
  | .object members => members.lookup key
  | _ => none

/-- The text of a string value. -/
def string? : Json → Option String
  | .string value => some value
  | _ => none

end Json

end ApiAtlas
