import ApiAtlas.Source.Grammar.Item
import ApiAtlas.Source.Lexer

/-!
# Reading whole source texts

The readers of the forms are tied together here: `grammar n` reads whatever nests at most `n` deep.
Every reader takes a token before it asks for a form inside, except that a chain of operators asks
twice per token, so twice the number of tokens is deep enough for a text.
-/

namespace ApiAtlas.Source

/-- One level of the grammar, from the readers of the forms inside. -/
def Grammar.next (g : Grammar) : Grammar where
  type := Reader.type g
  bound := Reader.bound g
  expr := Reader.expr g
  operand := Reader.operand g
  climb := Reader.climb g
  pattern := Reader.pattern g
  stmts := Reader.stmts g
  early := Reader.early g
  item := Reader.item g
  namedFields := Reader.namedFields g
  useTree := Reader.useTree g

/-- The grammar of forms that nest at most `depth` deep. -/
def grammar : (depth : Nat) → Grammar
  | 0 => Grammar.nothing
  | depth + 1 => (grammar depth).next

/-- A grammar deep enough for a list of tokens. -/
def Grammar.ofTokens (tokens : List TokenTree) : Grammar :=
  grammar (2 * TokenTree.weights tokens + 8)

/-- Reads a text that is a single type. -/
def Ty.parse? (text : String) : Option Ty := do
  let tokens ← Lexer.tokenize? text.toList
  Parse.runAll? ((Grammar.ofTokens tokens).type true) tokens

/-- The tokens of an expression taken off the front of a list, by what is left after it. -/
def Expr.dropFrom? (tokens : List TokenTree) : Option (List TokenTree) :=
  (Parse.runFront? ((Grammar.ofTokens tokens).expr true) tokens).map Prod.snd

/-! ## Files -/

/-- Whether a text goes on with an opening square bracket after blanks and comments; documentation
comments do not count as comments here. -/
def opensBracket (budget : Nat) (cs : List Char) : Bool :=
  match budget with
  | 0 => false
  | budget + 1 =>
    match Lexer.skip? cs with
    | some (_, rest) => opensBracket budget rest
    | none => cs.head? == some '['

/-- Drops an interpreter line, but keeps its end so that lines are counted from it. -/
def dropInterpreter (cs : List Char) : List Char :=
  match cs with
  | '#' :: '!' :: rest =>
    if opensBracket (rest.length + 1) rest then cs else cs.dropWhile fun c ↦ c != '\n'
  | _ => cs

/-- Reads a file: what its own attributes assign, and its items. -/
def SourceFile.parse? (path space text : String) : Option SourceFile := do
  let tokens ← Lexer.tokenize? (dropInterpreter (Lexer.dropMark text.toList))
  let g := Grammar.ofTokens tokens
  Parse.runAll? (do
    let attributes ← Reader.innerAttributes g
    let items ← Parse.untilEmpty g.item
    return ⟨path, space, attributes.parts, items⟩) tokens

end ApiAtlas.Source
