import ApiAtlas.Config
import ApiAtlas.Route.Strategy

/-!
# Searching for routes

Every method call of a file is offered to the strategies in order, an outer call before the calls
inside it. The first strategy that accepts a call reads its routes. The attributes of a call come after
the call itself.
-/

namespace ApiAtlas.Route

open Source

/-- Where routes are searched and which functions wrap handlers. -/
structure Place where
  file : String
  wrappers : List String

/-- The route of a registration whose handler is known. -/
def ofRegistration? (p : Place) (call : Call) (r : Registration) : Option Route :=
  (HandlerRef.ofExpr? p.wrappers r.handler).map fun h ↦
    { method := r.method
      path := Template.normalize r.path
      handler := h.name
      tags := h.tags
      security := h.security
      origin := ⟨p.file, call.method.line⟩ }

/-- The first strategy that accepts a call. -/
def strategy? (strategies : List Strategy) (call : Call) : Option Strategy :=
  strategies.find? fun s ↦ s.accepts call

/-- The routes that a call registers. -/
def ofCall (strategies : List Strategy) (p : Place) (call : Call) : List Route :=
  match (strategy? strategies call).bind fun s ↦ s.read? call with
  | some found => found.filterMap (ofRegistration? p call)
  | none => []

/-- The parts of a call besides its own arguments when its receiver belongs to the shape. -/
def receiverParts : Expr → List Node
  | .methodCall receiver _ _ args => .expr receiver :: args.map Node.expr
  | .annotated _ inner => receiverParts inner
  | e => [.expr e]

/-- The call that an expression is, under attributes. -/
def call? : Expr → Option Call
  | .methodCall receiver method _ args => some ⟨receiver, method, args⟩
  | .annotated _ inner => call? inner
  | _ => none

/-- The call that a node is. -/
def callOf? : Node → Option Call
  | .expr e => call? e
  | _ => none

/-- The routes of a node itself. -/
def ofNode (strategies : List Strategy) (p : Place) (node : Node) : List Route :=
  match callOf? node with
  | some call => ofCall strategies p call
  | none => []

/-- The nodes to be searched below a node. If the receiver of a call belongs to its shape, only the
parts of the receiver and the arguments are. -/
def below (strategies : List Strategy) (node : Node) : List Node :=
  match callOf? node with
  | some call =>
    match strategy? strategies call with
    | some s =>
      if s.takesReceiver then receiverParts call.receiver ++ call.args.map Node.expr
      else node.children
    | none => node.children
  | none => node.children

theorem sizeOf_le_of_mem_receiverParts {n : Node} {e : Expr} (h : n ∈ receiverParts e) :
    sizeOf n ≤ sizeOf e + 1 := by
  fun_induction receiverParts e with
  | case1 receiver method generics args =>
    simp only [List.mem_cons] at h
    rcases h with rfl | h
    · simp only [Node.expr.sizeOf_spec, Expr.methodCall.sizeOf_spec]
      omega
    · have := sizeOf_le_of_mem_map_expr h
      simp only [Expr.methodCall.sizeOf_spec]
      omega
  | case2 parts inner ih =>
    have := ih h
    simp only [Expr.annotated.sizeOf_spec]
    omega
  | case3 e =>
    simp only [List.mem_singleton] at h
    subst h
    simp only [Node.expr.sizeOf_spec]
    omega

theorem sizeOf_lt_of_call? {e : Expr} {call : Call} (h : call? e = some call) :
    sizeOf call.receiver + sizeOf call.args < sizeOf e := by
  fun_induction call? e with
  | case1 receiver method generics args =>
    cases h
    simp only [Expr.methodCall.sizeOf_spec]
    omega
  | case2 parts inner ih =>
    have := ih h
    simp only [Expr.annotated.sizeOf_spec]
    omega
  | case3 => simp at h

theorem sizeOf_lt_of_callOf? {node : Node} {call : Call} (h : callOf? node = some call) :
    sizeOf call.receiver + sizeOf call.args + 1 < sizeOf node := by
  cases node with
  | expr e =>
    have := sizeOf_lt_of_call? (e := e) h
    simp only [Node.expr.sizeOf_spec]
    omega
  | type t => simp [callOf?] at h
  | item i => simp [callOf?] at h

theorem sizeOf_lt_of_mem_below {strategies : List Strategy} {n node : Node}
    (h : n ∈ below strategies node) : sizeOf n < sizeOf node := by
  unfold below at h
  split at h
  · rename_i call hcall
    have hsize := sizeOf_lt_of_callOf? hcall
    split at h
    · split at h
      · simp only [List.mem_append] at h
        rcases h with h | h
        · have := sizeOf_le_of_mem_receiverParts h
          omega
        · have := sizeOf_le_of_mem_map_expr h
          omega
      · exact Node.sizeOf_lt_of_mem_children h
    · exact Node.sizeOf_lt_of_mem_children h
  · exact Node.sizeOf_lt_of_mem_children h

/-- The routes in a node and below it. -/
def search (strategies : List Strategy) (p : Place) (node : Node) : List Route :=
  ofNode strategies p node ++
    (below strategies node).attach.flatMap fun ⟨n, _⟩ ↦ search strategies p n
termination_by sizeOf node
decreasing_by
  rename_i h
  exact sizeOf_lt_of_mem_below h

/-- The routes of a file. -/
def ofFileWith (strategies : List Strategy) (config : Config) (file : SourceFile) : List Route :=
  (file.context ++ file.items.map Node.item).flatMap
    (search strategies ⟨file.path, config.buildHandlers⟩)

/-- The routes of a list of files. -/
def ofFiles (config : Config) (files : List SourceFile) : List Route :=
  files.flatMap (ofFileWith Strategy.all config)

end ApiAtlas.Route
