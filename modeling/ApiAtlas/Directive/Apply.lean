import ApiAtlas.Directive.Meaning

/-!
# Applying directives

A directive with one group edits a schema token by token; a faulty token is reported and skipped.
After the token `dive` the rest of the group constrains the elements: the items of an array, or the
values of an object. A directive with several groups offers alternatives, each built on a schema of
its own.
-/

namespace ApiAtlas.Directive

/-- Applies the tokens of a group; the issues come in the order of the tokens. -/
def applyTokens (custom : List (String × String)) :
    List Token → WireType → Schema → Schema × List Issue
  | [], _, schema => (schema, [])
  | token :: rest, wire, schema =>
    if token.name == "dive" then
      if wire == .object then
        let target := schema.additionalProperties.getD .empty
        let (edited, issues) := applyTokens custom rest (.ofSchema target) target
        ({ schema with additionalProperties := some edited }, issues)
      else
        let target := schema.items.getD .empty
        let (edited, issues) := applyTokens custom rest (.ofSchema target) target
        ({ schema with items := some edited }, issues)
    else
      match meaning custom wire token with
      | .ok edit => applyTokens custom rest wire (edit.apply schema)
      | .error issue =>
        let (edited, issues) := applyTokens custom rest wire schema
        (edited, issue :: issues)

/-- Applies a directive to a schema. -/
def apply (custom : List (String × String)) (directive : String) (wire : WireType)
    (schema : Schema) : Schema × List Issue :=
  match groups directive.toList with
  | first :: second :: rest =>
    let results := (first :: second :: rest).map fun group ↦
      applyTokens custom (tokens group) wire .empty
    ({ schema with anyOf := some (results.map Prod.fst) }, results.flatMap Prod.snd)
  | _ => applyTokens custom (tokens directive.toList) wire schema

end ApiAtlas.Directive
