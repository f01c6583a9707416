import ApiAtlas.Text.LetterCase
import ApiAtlas.Text.Split

/-!
# HTTP methods

The methods that route registrations name, and the method that a handler's name suggests where a
registration names none.
-/

namespace ApiAtlas

/-- An HTTP method. -/
inductive Method
  | get
  | post
  | put
  | delete
  | patch
  | options
  | head
  deriving DecidableEq, Repr, Inhabited

namespace Method

/-- The usual spelling of a method. -/
def name : Method → String
  | .get => "GET"
  | .post => "POST"
  | .put => "PUT"
  | .delete => "DELETE"
  | .patch => "PATCH"
  | .options => "OPTIONS"
  | .head => "HEAD"

/-- The method with a given name, whatever its case; of a path only the last segment counts. -/
def ofName? (text : String) : Option Method :=
  match Text.lowerAscii (String.ofList (Text.afterColons text.toList)) with
  | "get" => some .get
  | "post" => some .post
  | "put" => some .put
  | "delete" => some .delete
  | "patch" => some .patch
  | "options" => some .options
  | "head" => some .head
  | _ => none

/-- The words at the start of a handler's name that suggest a method. -/
def hints : List (String × Method) :=
  [("get", .get), ("list", .get), ("fetch", .get), ("create", .post), ("post", .post),
   ("add", .post), ("update", .put), ("put", .put), ("edit", .put), ("patch", .patch),
   ("modify", .patch), ("delete", .delete), ("remove", .delete)]

/-- The method that a handler's name suggests; without a hint it is POST. -/
def infer (handler : String) : Method :=
  let name := (Text.lowerAscii handler).toList
  match hints.find? fun (word, _) ↦ word.toList.isPrefixOf name with
  | some (_, method) => method
  | none => .post

/-- Whether requests with this method carry a body. -/
def hasBody : Method → Bool
  | .post => true
  | .put => true
  | .patch => true
  | _ => false

end Method

end ApiAtlas
