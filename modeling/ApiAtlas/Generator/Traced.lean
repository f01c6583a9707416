import ApiAtlas.Union.Resolve

/-!
# Traced values

A schema depends on the catalog only, but its making has effects: the components that it mentions
have to be made too, its unions are checked, and there may be something to report. A traced value is
a value with the steps of its making in order.
-/

namespace ApiAtlas

/-- A step in the making of a schema. -/
inductive Step
  /-- A component is mentioned. -/
  | mention (name : String)
  /-- A union is met under a label. -/
  | meet (label : String) (union : Union)
  /-- There is something to report. -/
  | report (notice : Notice)

/-- A value with the steps of its making. -/
structure Traced (α : Type) where
  value : α
  steps : List Step

namespace Traced

instance : Monad Traced where
  pure a := ⟨a, []⟩
  bind x f :=
    let y := f x.value
    ⟨y.value, x.steps ++ y.steps⟩

/-- Takes a step. -/
def step (s : Step) : Traced Unit :=
  ⟨(), [s]⟩

/-- Reports notices. -/
def report (notices : List Notice) : Traced Unit :=
  ⟨(), notices.map Step.report⟩

end Traced

end ApiAtlas
