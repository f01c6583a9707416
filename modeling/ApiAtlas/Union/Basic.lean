import ApiAtlas.Schema
import ApiAtlas.TypeExpr.Reader

/-!
# Unions

A union is a generic type such as `OneOf2<Card, BankTransfer>` whose name says how many alternatives
it has. Alternatives keep their order.
-/

namespace ApiAtlas

/-- A union of two to four alternatives, with its discriminator once that is known. -/
structure Union where
  arity : Nat
  alternatives : List TypeExpr
  discriminator : Option Discriminator := none
  /-- Whether the discriminator property was asked for by name. -/
  isExplicit : Bool := false
  deriving Repr, Inhabited

namespace Union

/-- The union that an expression denotes, for a given name without its number. The number has to be
two, three or four and to agree with the arguments. -/
def detect? (unionPrefix : String) (t : TypeExpr) : Option Union :=
  match t.unwrapped with
  | .generic base args =>
    match (Text.dropLead? unionPrefix.toList base.toList).bind Decimal.unsigned? with
    | some arity =>
      if 2 ≤ arity ∧ arity ≤ 4 ∧ args.length = arity then some ⟨arity, args, none, false⟩
      else none
    | none => none
  | _ => none

/-- The union that a text denotes. -/
def parse? (unionPrefix text : String) : Option Union :=
  (TypeExpr.parse? text).bind (detect? unionPrefix)

/-- The name of an alternative, under wrappers and one optional slot. -/
def alternativeName? (t : TypeExpr) : Option String :=
  t.payload.1.name?

end Union

end ApiAtlas
