import ApiAtlas.Decimal.Notation
import ApiAtlas.Directive.Edit
import ApiAtlas.Directive.Token
import ApiAtlas.Directive.WireType
import ApiAtlas.Text.Split

/-!
# The meaning of a token

Each token of a directive stands for an edit that depends on the wire type of the constrained value,
or is faulty: it lacks its value, or the value is no number or no length. Names that are neither
built in nor registered mean nothing.
-/

namespace ApiAtlas.Directive

open Text

/-- What can be wrong with a token. -/
inductive Issue
  | missingValue (token : String)
  | notNumber (text : String)
  | notLength (text : String)
  deriving DecidableEq, Repr

/-- The wording of an issue. -/
def Issue.message : Issue → String
  | .missingValue token => "`" ++ token ++ "` requires a value"
  | .notNumber text => "`" ++ text ++ "` is not a number"
  | .notLength text => "`" ++ text ++ "` is not a non-negative integer length"

/-- The wording of the issues of one directive. -/
def issuesMessage (issues : List Issue) : String :=
  "invalid validation directive: " ++ "; ".intercalate (issues.map Issue.message)

/-! ## Vocabulary -/

/-- Tokens that only say whether a value has to be present. -/
def presenceTokens : List String :=
  ["required", "omitempty", "omitnil", "isdefault"]

/-- Tokens that set a format. -/
def formatTokens : List (String × String) :=
  [("email", "email"), ("url", "uri"), ("uri", "uri"), ("http_url", "uri"), ("uuid", "uuid"),
   ("uuid3", "uuid"), ("uuid4", "uuid"), ("uuid5", "uuid"), ("ip", "ip"), ("ip_addr", "ip"),
   ("ipv4", "ipv4"), ("ip4_addr", "ipv4"), ("ipv6", "ipv6"), ("ip6_addr", "ipv6"),
   ("hostname", "hostname"), ("hostname_rfc1123", "hostname"), ("fqdn", "hostname"),
   ("base64", "byte"), ("base64url", "byte"), ("cidr", "cidr"), ("cidrv4", "cidrv4"),
   ("cidrv6", "cidrv6")]

/-- Tokens that set a pattern. -/
def patternTokens : List (String × String) :=
  [("alpha", "^[a-zA-Z]+$"),
   ("alphanum", "^[a-zA-Z0-9]+$"),
   ("alphaunicode", "^[\\p\x7bL\x7d]+$"),
   ("alphanumunicode", "^[\\p\x7bL\x7d\\p\x7bN\x7d]+$"),
   ("numeric", "^[-+]?[0-9]+(?:\\.[0-9]+)?$"),
   ("number", "^[0-9]+$"),
   ("hexadecimal", "^(0[xX])?[0-9a-fA-F]+$"),
   ("hexcolor",
    "^#(?:[0-9a-fA-F]\x7b3\x7d|[0-9a-fA-F]\x7b4\x7d|[0-9a-fA-F]\x7b6\x7d|[0-9a-fA-F]\x7b8\x7d)$"),
   ("rgb",
    "^rgb\\(\\s*\\d\x7b1,3\x7d%?\\s*,\\s*\\d\x7b1,3\x7d%?\\s*,\\s*\\d\x7b1,3\x7d%?\\s*\\)$"),
   ("rgba",
    "^rgba\\(\\s*\\d\x7b1,3\x7d%?\\s*,\\s*\\d\x7b1,3\x7d%?\\s*,\\s*\\d\x7b1,3\x7d%?\\s*,\\s*" ++
      "(?:0|1|0?\\.\\d+)\\s*\\)$"),
   ("hsl", "^hsl\\(\\s*\\d\x7b1,3\x7d\\s*,\\s*\\d\x7b1,3\x7d%\\s*,\\s*\\d\x7b1,3\x7d%\\s*\\)$"),
   ("hsla",
    "^hsla\\(\\s*\\d\x7b1,3\x7d\\s*,\\s*\\d\x7b1,3\x7d%\\s*,\\s*\\d\x7b1,3\x7d%\\s*,\\s*" ++
      "(?:0|1|0?\\.\\d+)\\s*\\)$"),
   ("mac", "^(?:[0-9A-Fa-f]\x7b2\x7d[:-])\x7b5\x7d[0-9A-Fa-f]\x7b2\x7d$"),
   ("e164", "^\\+[1-9]?[0-9]\x7b7,14\x7d$"),
   ("lowercase", "^[^A-Z]*$"),
   ("uppercase", "^[^a-z]*$"),
   ("ascii", "^[\\x00-\\x7F]*$"),
   ("printascii", "^[\\x00-\\x7F]*$"),
   ("jwt", "^[A-Za-z0-9-_]+\\.[A-Za-z0-9-_]+\\.[A-Za-z0-9-_]*$")]

/-- Tokens that relate a field to others; they are only described. -/
def relationTokens : List (String × String) :=
  [("eqfield", "must equal field"),
   ("nefield", "must not equal field"),
   ("gtfield", "must be greater than field"),
   ("gtefield", "must be greater than or equal to field"),
   ("ltfield", "must be less than field"),
   ("ltefield", "must be less than or equal to field"),
   ("eqcsfield", "must equal field"),
   ("necsfield", "must not equal field"),
   ("fieldcontains", "must contain the value of field"),
   ("fieldexcludes", "must not contain the value of field"),
   ("required_if", "required if"),
   ("required_unless", "required unless"),
   ("required_with", "required when present:"),
   ("required_with_all", "required when all present:"),
   ("required_without", "required when absent:"),
   ("required_without_all", "required when all absent:"),
   ("excluded_if", "excluded if"),
   ("excluded_unless", "excluded unless"),
   ("excluded_with", "excluded when present:"),
   ("excluded_without", "excluded when absent:")]

/-! ## Values -/

/-- The value of a token that needs one; an empty value counts as missing. -/
def Token.needValue (token : Token) : Except Issue String :=
  match token.value with
  | some value => if value.isEmpty then .error (.missingValue token.name) else .ok value
  | none => .error (.missingValue token.name)

/-- Reads a number: an integer of 64 bits where possible, otherwise to double precision. -/
def readNumber (text : String) : Except Issue Json.Number :=
  let real := fun (_ : Unit) ↦
    match Decimal.read? text.toList with
    | some x => Except.ok (Json.Number.real x)
    | none => .error (.notNumber text)
  match Decimal.integer? text.toList with
  | some n => if Decimal.isSigned64 n then .ok (.int n) else real ()
  | none => real ()

/-- Reads a length of 64 bits. -/
def readLength (text : String) : Except Issue Nat :=
  match Decimal.unsigned? text.toList with
  | some n => if Decimal.isUnsigned64 n then .ok n else .error (.notLength text)
  | none => .error (.notLength text)

/-- The values of a list written with blanks between them; a value in single quotes may hold blanks,
and an open quote reaches to the end. -/
def listedFrom : List Char → List (List Char)
  | [] => []
  | '\'' :: rest =>
    rest.takeWhile (· != '\'') :: listedFrom (trimStart ((rest.dropWhile (· != '\'')).drop 1))
  | c :: rest =>
    (c :: rest).takeWhile (fun d ↦ !isBlank d) ::
      listedFrom (trimStart ((c :: rest).dropWhile fun d ↦ !isBlank d))
termination_by cs => cs.length
decreasing_by
  · have h1 := length_trimStart_le ((rest.dropWhile (· != '\'')).drop 1)
    have h2 := List.length_drop (i := 1) (l := rest.dropWhile (· != '\''))
    have h3 := (List.dropWhile_suffix (l := rest) (· != '\'')).length_le
    simp only [List.length_cons]
    omega
  · have h3 := (List.dropWhile_suffix (l := rest) (fun d ↦ !isBlank d)).length_le
    by_cases hc : isBlank c
    · have h4 : (c :: rest).dropWhile (fun d ↦ !isBlank d) = c :: rest := by simp [hc]
      rw [h4]
      have h5 : trimStart (c :: rest) = trimStart rest := by simp [trimStart, hc]
      rw [h5]
      have h1 := length_trimStart_le rest
      simp only [List.length_cons]
      omega
    · have h4 : (c :: rest).dropWhile (fun d ↦ !isBlank d) =
          rest.dropWhile (fun d ↦ !isBlank d) := by simp [hc]
      rw [h4]
      have h1 := length_trimStart_le (rest.dropWhile fun d ↦ !isBlank d)
      simp only [List.length_cons]
      omega

/-- The values of a list, such as `red green 'light blue'`. -/
def listedValues (text : String) : List String :=
  (listedFrom (trim text.toList)).map String.ofList

/-- An allowed value: a number for numeric wire types, otherwise a string. -/
def allowedValue (wire : WireType) (text : String) : Except Issue Json :=
  if wire.isNumeric then (readNumber text).map .number else .ok (.string text)

/-- The allowed values of a list, or the first fault among them. -/
def allowedValues (wire : WireType) : List String → Except Issue (List Json)
  | [] => .ok []
  | text :: rest =>
    match allowedValue wire text with
    | .error issue => .error issue
    | .ok value => (allowedValues wire rest).map (value :: ·)

/-- The characters with a meaning in regular expressions. -/
def regexSpecials : List Char :=
  "\\.+*?()|[]\x7b\x7d^$".toList

/-- Puts a backslash before every character with a meaning in regular expressions. -/
def regexEscapeChars (cs : List Char) : List Char :=
  cs.flatMap fun c ↦ if regexSpecials.contains c then ['\\', c] else [c]

/-- A regular expression that matches a text literally. -/
def regexEscape (text : String) : String :=
  String.ofList (regexEscapeChars text.toList)

/-! ## Bounds -/

/-- A lower bound: on the length of a string or an array, on the value otherwise. -/
def lowerBound (wire : WireType) (text : String) (exclusive : Bool) : Except Issue Edit :=
  match wire with
  | .string => (readLength text).map fun n ↦ .minLength (if exclusive then n + 1 else n)
  | .array => (readLength text).map fun n ↦ .minItems (if exclusive then n + 1 else n)
  | _ => (readNumber text).map fun x ↦ .minimum x exclusive

/-- An upper bound: on the length of a string or an array, on the value otherwise. -/
def upperBound (wire : WireType) (text : String) (exclusive : Bool) : Except Issue Edit :=
  match wire with
  | .string => (readLength text).map fun n ↦ .maxLength (if exclusive then n - 1 else n)
  | .array => (readLength text).map fun n ↦ .maxItems (if exclusive then n - 1 else n)
  | _ => (readNumber text).map fun x ↦ .maximum x exclusive

/-- Both bounds at once. -/
def exactBound (wire : WireType) (text : String) : Except Issue Edit :=
  match lowerBound wire text false, upperBound wire text false with
  | .ok low, .ok high => .ok (.both low high)
  | .error issue, _ => .error issue
  | _, .error issue => .error issue

/-! ## Tokens -/

/-- The meaning of a token whose value matters beyond being named in a table, by name. -/
def valued (wire : WireType) (name value : String) : Option (Except Issue Edit) :=
  match name with
  | "min" | "gte" => some (lowerBound wire value false)
  | "max" | "lte" => some (upperBound wire value false)
  | "gt" => some (lowerBound wire value true)
  | "lt" => some (upperBound wire value true)
  | "len" => some (exactBound wire value)
  | "oneof" => some ((allowedValues wire (listedValues value)).map .values)
  | "eq" => some ((allowedValue wire value).map fun json ↦ .values [json])
  | "ne" => some (.ok (.line ("must not equal " ++ value)))
  | "contains" => some (.ok (.pattern (regexEscape value)))
  | "excludes" => some (.ok (.pattern ("^(?!.*" ++ regexEscape value ++ ").*$")))
  | "startswith" => some (.ok (.pattern ("^" ++ regexEscape value)))
  | "endswith" => some (.ok (.pattern (regexEscape value ++ "$")))
  | _ => none

/-- The tokens that need a value. -/
def valueTokens : List String :=
  ["min", "gte", "max", "lte", "gt", "lt", "len", "oneof", "eq", "ne", "contains", "excludes",
   "startswith", "endswith"]

/-- The meaning of a token that is a single word, by name. -/
def bare (wire : WireType) (name : String) : Option Edit :=
  match name with
  | "latitude" => some (.range (-90) 90)
  | "longitude" => some (.range (-180) 180)
  | "unique" =>
    some (if wire == .array then .uniqueItems else .line "values must be unique")
  | "boolean" =>
    some (if wire == .string then .line "must be a boolean value (true or false)" else .boolean)
  | _ => none

/-- Looks for the meaning of a name among the relations and the registered names. -/
def described (custom : List (String × String)) (token : Token) : Except Issue Edit :=
  match relationTokens.lookup token.name with
  | some phrase =>
    match token.value with
    | some value => .ok (.line (phrase ++ " " ++ value))
    | none => .error (.missingValue token.name)
  | none =>
    match Keyed.get? token.name custom with
    | some description => .ok (.line description)
    | none => .ok .nothing

/-- The edit that a token stands for. `custom` gives the descriptions of registered names. -/
def meaning (custom : List (String × String)) (wire : WireType) (token : Token) :
    Except Issue Edit :=
  if token.name.isEmpty || presenceTokens.contains token.name then .ok .nothing
  else if token.name == "datetime" then
    .ok (.format (if token.value == some "2006-01-02" then "date" else "date-time"))
  else if valueTokens.contains token.name then
    match token.needValue with
    | .error issue => .error issue
    | .ok value => (valued wire token.name value).getD (.ok .nothing)
  else
    match formatTokens.lookup token.name, patternTokens.lookup token.name, bare wire token.name with
    | some text, _, _ => .ok (.format text)
    | none, some text, _ => .ok (.pattern text)
    | none, none, some edit => .ok edit
    | none, none, none => described custom token

end ApiAtlas.Directive
