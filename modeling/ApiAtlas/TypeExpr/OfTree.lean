import ApiAtlas.Source.Reader
import ApiAtlas.TypeExpr.Basic

/-!
# Type expressions of syntax trees

The type expression that a type in a source file denotes. References and parentheses leave no trace,
a path counts by its last segment, and types of other forms are unknown.
-/

namespace ApiAtlas.TypeExpr

open Source

mutual

/-- The expression of a type. -/
def ofTy : Ty → TypeExpr
  | .path _ segments => ofSegments segments
  | .reference _ _ target => ofTy target
  | .slice element => .sequence (ofTy element)
  | .array element _ => .sequence (ofTy element)
  | .paren inner => ofTy inner
  | .tuple [] => .named "()"
  | .tuple (first :: rest) => .generic "Tuple" (ofTy first :: ofTys rest)
  | .bounds _ _ => .named "unknown"
  | .other _ => .named "unknown"

/-- The expressions of a list of types. -/
def ofTys : List Ty → List TypeExpr
  | [] => []
  | t :: rest => ofTy t :: ofTys rest

/-- The expression of a path, by its last segment. -/
def ofSegments : List Segment → TypeExpr
  | [] => .named "unknown"
  | [.plain name] => ofBase name []
  | [.angle name args] => ofBase name (ofArgs args)
  | [.paren name _] => ofBase name []
  | _ :: rest => ofSegments rest

/-- The types among generic arguments. -/
def ofArgs : List GenericArg → List TypeExpr
  | [] => []
  | .type t :: rest => ofTy t :: ofArgs rest
  | _ :: rest => ofArgs rest

end

/-- The expression of a text that is a single type of the language. -/
def ofSource? (text : String) : Option TypeExpr :=
  (Ty.parse? text).map ofTy

end ApiAtlas.TypeExpr
