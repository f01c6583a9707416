import ApiAtlas.Yaml.Cursor

/-!
# Tags

A tag says what kind of value follows it. It is written in full between angle brackets, or by a handle
that stands for its first part. Escapes in it name the octets of a character in UTF-8.
-/

namespace ApiAtlas.Yaml

/-- A tag by its characters. Escaped octets that make up no character are kept as nothing. -/
abbrev Tag := List (Option Char)

namespace Tag

/-- The tag with a given text. -/
def ofText (text : String) : Tag :=
  text.toList.map some

/-- The text of a tag, if all of it is characters. -/
def text? (tag : Tag) : Option String :=
  (tag.mapM id).map String.ofList

/-- The first part of the tags of the language itself. -/
def languageStart : String :=
  "tag:yaml.org,2002:"

/-- Whether a tag is the one of the language with a given name. -/
def isStandard (tag : Tag) (name : String) : Bool :=
  tag.text? == some (languageStart ++ name)

/-- The name of a tag that starts with an exclamation mark; the mark alone is a name as well. -/
def ownName? (tag : Tag) : Option String :=
  tag.text?.bind fun text ↦
    match text.toList with
    | ['!'] => some "!"
    | '!' :: name => some (String.ofList name)
    | _ => none

/-- The tag up to an escaped zero. -/
def upToZero (tag : Tag) : Tag :=
  tag.takeWhile fun c ↦ c != some (Char.ofNat 0)

end Tag

/-! ## Escapes -/

/-- The octet that an escape at the front of a text names. -/
def escapedOctet? : List Char → Option Nat
  | '%' :: high :: low :: _ => digits? 16 [high, low]
  | _ => none

/-- What the first octet of a character says: how many octets follow, the bits it holds itself, and
the least code that needs so many octets. -/
def leadOctet? (octet : Nat) : Option (Nat × Nat × Nat) :=
  if octet < 0x80 then some (0, octet, 0)
  else if octet < 0xC0 then none
  else if octet < 0xE0 then some (1, octet - 0xC0, 0x80)
  else if octet < 0xF0 then some (2, octet - 0xE0, 0x800)
  else if octet < 0xF8 then some (3, octet - 0xF0, 0x10000)
  else none

/-- Adds the bits of the escaped octets that follow the first one. -/
def followingBits? : (count : Nat) → (bits : Nat) → List Char → Option Nat
  | 0, bits, _ => some bits
  | count + 1, bits, cs =>
    (escapedOctet? cs).bind fun octet ↦
      if 0x80 ≤ octet ∧ octet < 0xC0 then
        followingBits? count (64 * bits + (octet - 0x80)) (cs.drop 3)
      else none

/-- Reads the escapes of one character: the character, if the code is one, and their length. -/
def readEscapes? (cs : List Char) : Option (Option Char × Nat) := do
  let octet ← escapedOctet? cs
  let (count, bits, least) ← leadOctet? octet
  let code ← followingBits? count bits (cs.drop 3)
  let value := if least ≤ code ∧ code.isValidChar then some (Char.ofNat code) else none
  return (value, 3 * (count + 1))

/-! ## Reading -/

/-- Whether a character may stand in an anchor or in a handle. -/
def isNameChar (c : Char) : Bool :=
  c.isAlphanum || c == '_' || c == '-'

/-- Whether a character may stand in a tag; more may between angle brackets. -/
def isTagChar (isBracketed : Bool) (c : Char) : Bool :=
  isNameChar c || ";/?:@&=+$.!~*'()".toList.contains c ||
    (isBracketed && ",[]".toList.contains c)

/-- Reads the characters of a tag. -/
def readTagChars (isBracketed : Bool) : (budget : Nat) → Cursor → Option (Tag × Cursor)
  | 0, _ => none
  | budget + 1, c =>
    match c.peek? with
    | none => some ([], c)
    | some '%' => do
      let (value, count) ← readEscapes? c.rest
      let (more, next) ← readTagChars isBracketed budget (c.skip count)
      return (value :: more, next)
    | some ch =>
      if isTagChar isBracketed ch then
        (readTagChars isBracketed budget (c.skip 1)).map fun (more, next) ↦ (some ch :: more, next)
      else some ([], c)

/-- Reads the characters of a tag, of which there is at least one. -/
def readTagText? (isBracketed : Bool) (c : Cursor) : Option (Tag × Cursor) :=
  (readTagChars isBracketed (c.rest.length + 1) c).bind fun (tag, next) ↦
    if tag.isEmpty then none else some (tag.upToZero, next)

/-- Reads a handle: a name between exclamation marks, of which the second one may be missing. -/
def readHandle? (c : Cursor) : Option (List Char × Cursor) :=
  match c.rest with
  | '!' :: rest =>
    let name := rest.takeWhile isNameChar
    let after := c.skip (1 + name.length)
    if after.peek? == some '!' then some ('!' :: name ++ ['!'], after.skip 1)
    else some ('!' :: name, after)
  | _ => none

/-- Whether both exclamation marks of a handle are there. -/
def isWholeHandle (handle : List Char) : Bool :=
  1 < handle.length && handle.getLast? == some '!'

/-- The handles that need no declaration, with what they stand for. -/
def knownHandles : List (String × Tag) :=
  [("!", Tag.ofText "!"), ("!!", Tag.ofText Tag.languageStart)]

/-- What a handle stands for; a declaration comes before what is known. -/
def expandHandle? (declared : List (String × Tag)) (handle : String) : Option Tag :=
  (declared ++ knownHandles).lookup handle

/-- Reads a tag with the given declarations of handles. An exclamation mark alone is a tag too. -/
def readTag? (declared : List (String × Tag)) (c : Cursor) : Option (Tag × Cursor) := do
  if c.second? == some '<' then
    let (tag, next) ← readTagText? true (c.skip 2)
    if next.peek? == some '>' then return (tag, next.skip 1) else none
  else
    let (handle, after) ← readHandle? c
    if isWholeHandle handle then
      let (tag, next) ← readTagText? false after
      return ((← expandHandle? declared (String.ofList handle)) ++ tag, next)
    else
      let (more, next) ← readTagChars false (after.rest.length + 1) after
      let tag := Tag.upToZero ((handle.drop 1).map some ++ more)
      if tag.isEmpty then return (Tag.ofText "!", next)
      else return ((← expandHandle? declared "!") ++ tag, next)

/-! ## Directives -/

/-- What the lines before a document declare. -/
inductive Directive
  | version (major minor : Nat)
  | handle (handle : String) (meaning : Tag)

/-- Reads a number of at most nine digits. -/
def readShortNumber? (c : Cursor) : Option (Nat × Cursor) :=
  let digits := c.rest.takeWhile Char.isDigit
  if 9 < digits.length then none
  else (digits? 10 digits).map fun n ↦ (n, c.skip digits.length)

/-- Reads a version: two numbers with a point between them. -/
def readVersion? (c : Cursor) : Option (Directive × Cursor) := do
  let (major, c) ← readShortNumber? c.skipBlanks
  if c.peek? == some '.' then
    let (minor, c) ← readShortNumber? (c.skip 1)
    return (.version major minor, c)
  else none

/-- Reads the declaration of a handle. -/
def readHandleMeaning? (c : Cursor) : Option (Directive × Cursor) := do
  let (handle, c) ← readHandle? c.skipBlanks
  if (isWholeHandle handle || handle == ['!']) && c.atBlank then
    let (meaning, c) ← readTagText? true c.skipBlanks
    return (.handle (String.ofList handle) meaning, c)
  else none

/-- Reads a line with a directive after its percent sign, with a comment and the end of the line. -/
def readDirective? (c : Cursor) : Option (Directive × Cursor) := do
  let name := c.rest.takeWhile isNameChar
  let c := c.skip name.length
  let (directive, c) ←
    match String.ofList name, isGap c.peek? with
    | "YAML", true => readVersion? c
    | "TAG", true => (readHandleMeaning? c).filter fun (_, c) ↦ isGap c.peek?
    | _, _ => none
  let c := c.skipBlanks
  let c := if c.peek? == some '#' then c.skipToBreak else c
  if c.atEnd then return (directive, c)
  else
    let (_, next) ← c.readBreak?
    return (directive, next)

end ApiAtlas.Yaml
