/-!
# Tokens of Rust source

The words of a source text: identifiers, lifetimes, literals and single punctuation characters, with
everything between matching brackets gathered into one group. An identifier remembers the line it
stands on, because routes and types are reported with their position.
-/

namespace ApiAtlas.Source

/-- A literal, reduced to what the readers of attributes and expressions look at. A number with a
point or an exponent keeps its spelling. -/
inductive Literal
  | text (value : String)
  | int (value : Nat) (suffixed : Bool)
  | float (spelling : String)
  | bool (value : Bool)
  | other
  deriving Repr, DecidableEq, Inhabited

/-- The three pairs of brackets. -/
inductive Delimiter
  | paren
  | bracket
  | brace
  deriving Repr, DecidableEq

/-- A token, or a group of tokens between brackets. A punctuation character is `joint` if another
one follows it at once. -/
inductive TokenTree
  | ident (text : String) (line : Nat)
  | lifetime (name : String)
  | literal (value : Literal)
  | punct (char : Char) (joint : Bool)
  | group (delimiter : Delimiter) (content : List TokenTree)
  deriving Repr, Inhabited

namespace TokenTree

mutual

/-- The number of tokens in a tree. -/
def weight : TokenTree → Nat
  | .group _ content => weights content + 2
  | _ => 1

/-- The number of tokens in a list of trees. -/
def weights : List TokenTree → Nat
  | [] => 0
  | tree :: rest => tree.weight + weights rest

end

end TokenTree

/-- The words that never name anything. -/
def keywords : List String :=
  ["_", "abstract", "as", "async", "await", "become", "box", "break", "const", "continue", "crate",
   "do", "dyn", "else", "enum", "extern", "false", "final", "fn", "for", "if", "impl", "in", "let",
   "loop", "macro", "match", "mod", "move", "mut", "override", "priv", "pub", "ref", "return",
   "Self", "self", "static", "struct", "super", "trait", "true", "try", "type", "typeof", "unsafe",
   "unsized", "use", "virtual", "where", "while", "yield"]

/-- Whether a word may name something. -/
def isName (word : String) : Bool :=
  !keywords.contains word

end ApiAtlas.Source
