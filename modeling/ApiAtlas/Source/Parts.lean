import ApiAtlas.Source.Tree

/-!
# The parts of a form in visiting order

A search through a syntax tree visits the parts of each form from left to right, attributes and
generics first. `Node.children` lists them one level down, and `Node.sizeOf_lt_of_mem_children` says
that they are smaller, so a search over the whole tree ends.
-/

namespace ApiAtlas.Source

/-! ## Parts -/

/-- The parts of a generic argument. -/
def GenericArg.parts : GenericArg → List Node
  | .lifetime _ => []
  | .type t => [.type t]
  | .other parts => parts

/-- The parts of a path segment. -/
def Segment.parts : Segment → List Node
  | .plain _ => []
  | .angle _ args => args.flatMap GenericArg.parts
  | .paren _ parts => parts

/-- The parts of an optional type. -/
def optionalType : Option Ty → List Node
  | some t => [.type t]
  | none => []

/-- The parts of an optional expression. -/
def optionalExpr : Option Expr → List Node
  | some e => [.expr e]
  | none => []

/-- The parts of a type. -/
def Ty.parts : Ty → List Node
  | .path qualifier segments => optionalType qualifier ++ segments.flatMap Segment.parts
  | .reference _ _ target => [.type target]
  | .slice element => [.type element]
  | .array element length => [.type element, .expr length]
  | .tuple elements => elements.map Node.type
  | .paren inner => [.type inner]
  | .bounds _ parts => parts
  | .other parts => parts

/-- The parts of an expression. What its attributes assign comes first, and the body of a macro call
is not searched. -/
def Expr.parts : Expr → List Node
  | .literal _ => []
  | .path qualifier segments => optionalType qualifier ++ segments.flatMap Segment.parts
  | .call callee args => .expr callee :: args.map Node.expr
  | .methodCall receiver _ generics args =>
    .expr receiver :: (generics.flatMap GenericArg.parts ++ args.map Node.expr)
  | .reference target => [.expr target]
  | .paren inner => [.expr inner]
  | .array elements => elements.map Node.expr
  | .macroCall _ => []
  | .giveBack value => optionalExpr value
  | .operation left rest => .expr left :: rest
  | .annotated parts inner => parts ++ inner.parts
  | .unread => []
  | .other parts => parts

/-- The parts of a statement. -/
def Stmt.parts : Stmt → List Node
  | .expr e => [.expr e]
  | .item i => [.item i]
  | .other parts => parts

/-- The parts of a parameter. -/
def Param.parts : Param → List Node
  | .receiver parts => parts
  | .typed pattern t => pattern ++ [.type t]
  | .variadic parts => parts

/-- The parts of a function. -/
def Function.parts (f : Function) : List Node :=
  f.context ++ f.params.flatMap Param.parts ++ optionalType f.output ++ f.body.flatMap Stmt.parts

/-- The parts of a field. -/
def Field.parts (f : Field) : List Node :=
  f.context ++ [.type f.type]

/-- The parts of a list of fields. -/
def Fields.parts : Fields → List Node
  | .named fields => fields.flatMap Field.parts
  | .unnamed fields => fields.flatMap Field.parts
  | .unit => []

/-- The parts of a variant. -/
def Variant.parts (v : Variant) : List Node :=
  v.context ++ v.fields.parts ++ optionalExpr v.discriminant

/-- The parts of a member of an implementation block. -/
def Member.parts : Member → List Node
  | .function f => f.parts
  | .other parts => parts

/-- The parts of an item. -/
def Item.parts : Item → List Node
  | .struct _ context _ fields => context ++ fields.parts
  | .enum _ context _ variants => context ++ variants.flatMap Variant.parts
  | .typeAlias _ context _ target => context ++ [.type target]
  | .implementation context self members =>
    context ++ (.type self :: members.flatMap Member.parts)
  | .constant context t value => context ++ [.type t, .expr value]
  | .function f => f.parts
  | .module context _ items => context ++ items.map Node.item
  | .other parts => parts

/-- The parts one level below a node. -/
def Node.children : Node → List Node
  | .expr e => e.parts
  | .type t => t.parts
  | .item i => i.parts

/-! ## Sizes -/

theorem sizeOf_le_of_mem_list {node : Node} {nodes : List Node} (h : node ∈ nodes) :
    sizeOf node ≤ sizeOf nodes :=
  Nat.le_of_lt (List.sizeOf_lt_of_mem h)

theorem sizeOf_le_of_mem_flatMap {α : Type} [SizeOf α] {f : α → List Node} {l : List α}
    {node : Node} (hf : ∀ a, ∀ n ∈ f a, sizeOf n ≤ sizeOf a) (h : node ∈ l.flatMap f) :
    sizeOf node ≤ sizeOf l := by
  obtain ⟨a, ha, hn⟩ := List.mem_flatMap.1 h
  exact Nat.le_trans (hf a node hn) (Nat.le_of_lt (List.sizeOf_lt_of_mem ha))

theorem sizeOf_le_of_mem_optionalType {node : Node} {t : Option Ty} (h : node ∈ optionalType t) :
    sizeOf node ≤ sizeOf t := by
  cases t with
  | none => simp [optionalType] at h
  | some t =>
    simp only [optionalType, List.mem_singleton] at h
    subst h
    simp

theorem sizeOf_le_of_mem_optionalExpr {node : Node} {e : Option Expr}
    (h : node ∈ optionalExpr e) : sizeOf node ≤ sizeOf e := by
  cases e with
  | none => simp [optionalExpr] at h
  | some e =>
    simp only [optionalExpr, List.mem_singleton] at h
    subst h
    simp

theorem sizeOf_le_of_mem_map_expr {node : Node} {es : List Expr} (h : node ∈ es.map Node.expr) :
    sizeOf node ≤ sizeOf es := by
  obtain ⟨e, he, rfl⟩ := List.mem_map.1 h
  have := List.sizeOf_lt_of_mem he
  simp only [Node.expr.sizeOf_spec]
  omega

theorem sizeOf_le_of_mem_map_type {node : Node} {ts : List Ty} (h : node ∈ ts.map Node.type) :
    sizeOf node ≤ sizeOf ts := by
  obtain ⟨t, ht, rfl⟩ := List.mem_map.1 h
  have := List.sizeOf_lt_of_mem ht
  simp only [Node.type.sizeOf_spec]
  omega

theorem sizeOf_le_of_mem_map_item {node : Node} {is : List Item} (h : node ∈ is.map Node.item) :
    sizeOf node ≤ sizeOf is := by
  obtain ⟨i, hi, rfl⟩ := List.mem_map.1 h
  have := List.sizeOf_lt_of_mem hi
  simp only [Node.item.sizeOf_spec]
  omega

theorem GenericArg.sizeOf_le_of_mem_parts (a : GenericArg) :
    ∀ n ∈ a.parts, sizeOf n ≤ sizeOf a := by
  intro n h
  cases a with
  | lifetime => simp [parts] at h
  | type t =>
    simp only [parts, List.mem_singleton] at h
    subst h
    simp
  | other ps =>
    have : sizeOf n ≤ sizeOf ps := sizeOf_le_of_mem_list h
    simp only [other.sizeOf_spec]
    omega

theorem Segment.sizeOf_le_of_mem_parts (s : Segment) : ∀ n ∈ s.parts, sizeOf n ≤ sizeOf s := by
  intro n h
  cases s with
  | plain => simp [parts] at h
  | angle name args =>
    have := sizeOf_le_of_mem_flatMap GenericArg.sizeOf_le_of_mem_parts h
    simp only [angle.sizeOf_spec]
    omega
  | paren name ps =>
    have : sizeOf n ≤ sizeOf ps := sizeOf_le_of_mem_list h
    simp only [paren.sizeOf_spec]
    omega

theorem Ty.sizeOf_le_of_mem_parts (t : Ty) : ∀ n ∈ t.parts, sizeOf n ≤ sizeOf t := by
  intro n h
  cases t with
  | path qualifier segments =>
    simp only [parts, List.mem_append] at h
    simp only [path.sizeOf_spec]
    rcases h with h | h
    · have := sizeOf_le_of_mem_optionalType h
      omega
    · have := sizeOf_le_of_mem_flatMap Segment.sizeOf_le_of_mem_parts h
      omega
  | reference _ _ target =>
    simp only [parts, List.mem_singleton] at h
    subst h
    simp only [Node.type.sizeOf_spec, reference.sizeOf_spec]
    omega
  | slice element =>
    simp only [parts, List.mem_singleton] at h
    subst h
    simp
  | array element length =>
    simp only [parts, List.mem_cons, List.not_mem_nil, or_false] at h
    rcases h with rfl | rfl
    · simp only [Node.type.sizeOf_spec, array.sizeOf_spec]
      omega
    · simp only [Node.expr.sizeOf_spec, array.sizeOf_spec]
      omega
  | tuple elements =>
    have := sizeOf_le_of_mem_map_type h
    simp only [tuple.sizeOf_spec]
    omega
  | paren inner =>
    simp only [parts, List.mem_singleton] at h
    subst h
    simp
  | bounds isSole ps =>
    have : sizeOf n ≤ sizeOf ps := sizeOf_le_of_mem_list h
    simp only [bounds.sizeOf_spec]
    omega
  | other ps =>
    have : sizeOf n ≤ sizeOf ps := sizeOf_le_of_mem_list h
    simp only [other.sizeOf_spec]
    omega

theorem Expr.sizeOf_le_of_mem_parts (e : Expr) : ∀ n ∈ e.parts, sizeOf n ≤ sizeOf e := by
  intro n h
  cases e with
  | literal => simp [parts] at h
  | path qualifier segments =>
    simp only [parts, List.mem_append] at h
    simp only [path.sizeOf_spec]
    rcases h with h | h
    · have := sizeOf_le_of_mem_optionalType h
      omega
    · have := sizeOf_le_of_mem_flatMap Segment.sizeOf_le_of_mem_parts h
      omega
  | call callee args =>
    simp only [parts, List.mem_cons] at h
    simp only [call.sizeOf_spec]
    rcases h with rfl | h
    · simp only [Node.expr.sizeOf_spec]
      omega
    · have := sizeOf_le_of_mem_map_expr h
      omega
  | methodCall receiver method generics args =>
    simp only [parts, List.mem_cons, List.mem_append] at h
    simp only [methodCall.sizeOf_spec]
    rcases h with rfl | h | h
    · simp only [Node.expr.sizeOf_spec]
      omega
    · have := sizeOf_le_of_mem_flatMap GenericArg.sizeOf_le_of_mem_parts h
      omega
    · have := sizeOf_le_of_mem_map_expr h
      omega
  | reference target =>
    simp only [parts, List.mem_singleton] at h
    subst h
    simp
  | paren inner =>
    simp only [parts, List.mem_singleton] at h
    subst h
    simp
  | array elements =>
    have := sizeOf_le_of_mem_map_expr h
    simp only [array.sizeOf_spec]
    omega
  | macroCall => simp [parts] at h
  | giveBack value =>
    have := sizeOf_le_of_mem_optionalExpr h
    simp only [giveBack.sizeOf_spec]
    omega
  | operation left rest =>
    simp only [parts, List.mem_cons] at h
    simp only [operation.sizeOf_spec]
    rcases h with rfl | h
    · simp only [Node.expr.sizeOf_spec]
      omega
    · have := sizeOf_le_of_mem_list h
      omega
  | annotated ps inner =>
    simp only [parts, List.mem_append] at h
    simp only [annotated.sizeOf_spec]
    rcases h with h | h
    · have := sizeOf_le_of_mem_list h
      omega
    · have := Expr.sizeOf_le_of_mem_parts inner n h
      omega
  | unread => simp [parts] at h
  | other ps =>
    have : sizeOf n ≤ sizeOf ps := sizeOf_le_of_mem_list h
    simp only [other.sizeOf_spec]
    omega
termination_by sizeOf e

theorem Stmt.sizeOf_le_of_mem_parts (s : Stmt) : ∀ n ∈ s.parts, sizeOf n ≤ sizeOf s := by
  intro n h
  cases s with
  | expr e =>
    simp only [parts, List.mem_singleton] at h
    subst h
    simp
  | item i =>
    simp only [parts, List.mem_singleton] at h
    subst h
    simp
  | other ps =>
    have : sizeOf n ≤ sizeOf ps := sizeOf_le_of_mem_list h
    simp only [other.sizeOf_spec]
    omega

theorem Param.sizeOf_le_of_mem_parts (p : Param) : ∀ n ∈ p.parts, sizeOf n ≤ sizeOf p := by
  intro n h
  cases p with
  | receiver ps =>
    have : sizeOf n ≤ sizeOf ps := sizeOf_le_of_mem_list h
    simp only [receiver.sizeOf_spec]
    omega
  | typed pattern t =>
    simp only [parts, List.mem_append, List.mem_singleton] at h
    simp only [typed.sizeOf_spec]
    rcases h with h | rfl
    · have := sizeOf_le_of_mem_list h
      omega
    · simp only [Node.type.sizeOf_spec]
      omega
  | variadic ps =>
    have : sizeOf n ≤ sizeOf ps := sizeOf_le_of_mem_list h
    simp only [variadic.sizeOf_spec]
    omega

theorem Function.sizeOf_le_of_mem_parts (f : Function) : ∀ n ∈ f.parts, sizeOf n ≤ sizeOf f := by
  intro n h
  cases f with
  | mk attributes context isPublic name params output body =>
    simp only [parts, List.mem_append] at h
    simp only [mk.sizeOf_spec]
    rcases h with ((h | h) | h) | h
    · have := sizeOf_le_of_mem_list h
      omega
    · have := sizeOf_le_of_mem_flatMap Param.sizeOf_le_of_mem_parts h
      omega
    · have := sizeOf_le_of_mem_optionalType h
      omega
    · have := sizeOf_le_of_mem_flatMap Stmt.sizeOf_le_of_mem_parts h
      omega

theorem Field.sizeOf_le_of_mem_parts (f : Field) : ∀ n ∈ f.parts, sizeOf n ≤ sizeOf f := by
  intro n h
  cases f with
  | mk attributes context name t =>
    simp only [parts, List.mem_append, List.mem_singleton] at h
    simp only [mk.sizeOf_spec]
    rcases h with h | rfl
    · have := sizeOf_le_of_mem_list h
      omega
    · simp only [Node.type.sizeOf_spec]
      omega

theorem Fields.sizeOf_le_of_mem_parts (f : Fields) : ∀ n ∈ f.parts, sizeOf n ≤ sizeOf f := by
  intro n h
  cases f with
  | named fields =>
    have := sizeOf_le_of_mem_flatMap Field.sizeOf_le_of_mem_parts h
    simp only [named.sizeOf_spec]
    omega
  | unnamed fields =>
    have := sizeOf_le_of_mem_flatMap Field.sizeOf_le_of_mem_parts h
    simp only [unnamed.sizeOf_spec]
    omega
  | unit => simp [parts] at h

theorem Variant.sizeOf_le_of_mem_parts (v : Variant) : ∀ n ∈ v.parts, sizeOf n ≤ sizeOf v := by
  intro n h
  cases v with
  | mk attributes context name fields discriminant =>
    simp only [parts, List.mem_append] at h
    simp only [mk.sizeOf_spec]
    rcases h with (h | h) | h
    · have := sizeOf_le_of_mem_list h
      omega
    · have := Fields.sizeOf_le_of_mem_parts _ _ h
      omega
    · have := sizeOf_le_of_mem_optionalExpr h
      omega

theorem Member.sizeOf_le_of_mem_parts (m : Member) : ∀ n ∈ m.parts, sizeOf n ≤ sizeOf m := by
  intro n h
  cases m with
  | function f =>
    have := Function.sizeOf_le_of_mem_parts _ _ h
    simp only [function.sizeOf_spec]
    omega
  | other ps =>
    have : sizeOf n ≤ sizeOf ps := sizeOf_le_of_mem_list h
    simp only [other.sizeOf_spec]
    omega

theorem Item.sizeOf_le_of_mem_parts (i : Item) : ∀ n ∈ i.parts, sizeOf n ≤ sizeOf i := by
  intro n h
  cases i with
  | struct attributes context name fields =>
    simp only [parts, List.mem_append] at h
    simp only [struct.sizeOf_spec]
    rcases h with h | h
    · have := sizeOf_le_of_mem_list h
      omega
    · have := Fields.sizeOf_le_of_mem_parts _ _ h
      omega
  | enum attributes context name variants =>
    simp only [parts, List.mem_append] at h
    simp only [enum.sizeOf_spec]
    rcases h with h | h
    · have := sizeOf_le_of_mem_list h
      omega
    · have := sizeOf_le_of_mem_flatMap Variant.sizeOf_le_of_mem_parts h
      omega
  | typeAlias attributes context name target =>
    simp only [parts, List.mem_append, List.mem_singleton] at h
    simp only [typeAlias.sizeOf_spec]
    rcases h with h | rfl
    · have := sizeOf_le_of_mem_list h
      omega
    · simp only [Node.type.sizeOf_spec]
      omega
  | implementation context self members =>
    simp only [parts, List.mem_append, List.mem_cons] at h
    simp only [implementation.sizeOf_spec]
    rcases h with h | rfl | h
    · have := sizeOf_le_of_mem_list h
      omega
    · simp only [Node.type.sizeOf_spec]
      omega
    · have := sizeOf_le_of_mem_flatMap Member.sizeOf_le_of_mem_parts h
      omega
  | constant context t value =>
    simp only [parts, List.mem_append, List.mem_cons, List.not_mem_nil, or_false] at h
    simp only [constant.sizeOf_spec]
    rcases h with h | rfl | rfl
    · have := sizeOf_le_of_mem_list h
      omega
    · simp only [Node.type.sizeOf_spec]
      omega
    · simp only [Node.expr.sizeOf_spec]
      omega
  | function f =>
    have := Function.sizeOf_le_of_mem_parts _ _ h
    simp only [function.sizeOf_spec]
    omega
  | module context name items =>
    simp only [parts, List.mem_append] at h
    simp only [module.sizeOf_spec]
    rcases h with h | h
    · have := sizeOf_le_of_mem_list h
      omega
    · have := sizeOf_le_of_mem_map_item h
      omega
  | other ps =>
    have : sizeOf n ≤ sizeOf ps := sizeOf_le_of_mem_list h
    simp only [other.sizeOf_spec]
    omega

/-- The children of a node are smaller than the node. -/
theorem Node.sizeOf_lt_of_mem_children {n node : Node} (h : n ∈ node.children) :
    sizeOf n < sizeOf node := by
  cases node with
  | expr e =>
    have := Expr.sizeOf_le_of_mem_parts e n h
    simp only [expr.sizeOf_spec]
    omega
  | type t =>
    have := Ty.sizeOf_le_of_mem_parts t n h
    simp only [type.sizeOf_spec]
    omega
  | item i =>
    have := Item.sizeOf_le_of_mem_parts i n h
    simp only [item.sizeOf_spec]
    omega

end ApiAtlas.Source
