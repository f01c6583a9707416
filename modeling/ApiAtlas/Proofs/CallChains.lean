import ApiAtlas.Proofs.Splitting
import ApiAtlas.Proofs.StrategyOrder

/-!
# Chained registrations

A registration is a method call, and its receiver may be another one. The search offers every call
of such a chain to the strategies, also the calls inside an argument, so that a chain of verbs
inside `.route("/users", get(list).post(create))` is looked at twice: once by the strategy that
reads it, and once link by link. The links give nothing the second time, because no resource stands
at their start. So each call of a chain reports its own routes, the outermost call first.
-/

namespace ApiAtlas.Route

open Source

/-! ## Expressions without calls -/

/-- No method call is visited in a node or below it. -/
inductive CallFree : Node → Prop
  | mk {node : Node} (hcall : callOf? node = none) (hchildren : ∀ n ∈ node.children, CallFree n) :
      CallFree node

theorem search_of_callFree {node : Node} (h : CallFree node) (strategies : List Strategy)
    (p : Place) : search strategies p node = [] := by
  induction h with
  | @mk node hcall _ ih =>
    have hbelow : below strategies node = node.children := by
      unfold below
      rw [hcall]
    rw [search_eq, hbelow, ofNode, hcall, List.nil_append]
    exact List.flatMap_eq_nil_iff.2 ih

/-- A path such as `list` or `handlers::list`, known by its last name. -/
structure PlainPath where
  qualifier : Option Ty := none
  segments : List Segment
  name : String
  isLast : segments.getLast?.map Segment.name = some name
  isFree : CallFree (.expr (.path qualifier segments))

namespace PlainPath

/-- The path as an expression. -/
def expr (path : PlainPath) : Expr :=
  .path path.qualifier path.segments

theorem ofExpr?_expr (path : PlainPath) (wrappers : List String) :
    HandlerRef.ofExpr? wrappers path.expr = some ⟨path.name, [], []⟩ := by
  have hlast := path.isLast
  rw [Option.map_eq_some_iff] at hlast
  obtain ⟨last, hlast, hname⟩ := hlast
  rw [expr, HandlerRef.ofExpr?, hlast, Option.map_some, hname]

theorem search_expr (path : PlainPath) (strategies : List Strategy) (p : Place) :
    search strategies p (.expr path.expr) = [] :=
  search_of_callFree path.isFree strategies p

end PlainPath

/-! ## One call -/

/-- A call whose receiver is not read by its strategy reports its own routes, then those inside the
receiver and the arguments. -/
theorem search_methodCall {strategies : List Strategy} {receiver : Expr} {method : Ident}
    {args : List Expr}
    (h : ∀ s ∈ strategy? strategies ⟨receiver, method, args⟩, s.takesReceiver = false) (p : Place) :
    search strategies p (.expr (.methodCall receiver method [] args)) =
      ofCall strategies p ⟨receiver, method, args⟩ ++ (search strategies p (.expr receiver) ++
        args.flatMap fun arg ↦ search strategies p (.expr arg)) := by
  have hbelow : below strategies (.expr (.methodCall receiver method [] args)) =
      .expr receiver :: args.map Node.expr := by
    simp only [below, callOf?, call?]
    split
    · next s hs =>
      rw [h s hs]
      rfl
    · rfl
  rw [search_eq, hbelow, List.flatMap_cons, List.flatMap_map]
  rfl

/-- The strategy that reads a call gives its routes. -/
theorem strategy?_of_read? {s : Strategy} {call : Call} {found : List Registration}
    (h : s.read? call = some found) : strategy? Strategy.all call = some s := by
  have haccepts : s.accepts call = true := by
    rw [Strategy.accepts, h]
    rfl
  have hall : s ∈ Strategy.all := by cases s <;> decide
  rw [strategy?_eq, candidate_of_accepts haccepts, if_pos ⟨hall, haccepts⟩]

theorem ofCall_of_read? {s : Strategy} {call : Call} {found : List Registration}
    (h : s.read? call = some found) (p : Place) :
    ofCall Strategy.all p call = found.filterMap (ofRegistration? p call) := by
  rw [ofCall, strategy?_of_read? h, Option.bind_some, h]

/-- A call with one argument that is no target is given to a strategy only if it is a verb on a
resource or qualifies a registration. -/
theorem strategy?_eq_none {receiver arg : Expr} {method : Ident} (harg : target? arg = none)
    (hverb : Method.ofName? method.text = none ∨ resourcePath? receiver = none)
    (hregistration : registration? receiver = none) :
    strategy? Strategy.all ⟨receiver, method, [arg]⟩ = none := by
  rw [strategy?, List.find?_eq_none]
  intro s _
  rw [Bool.not_eq_true, Strategy.accepts, Option.isSome_eq_false_iff, Option.isNone_iff_eq_none]
  cases s with
  | methodRouter => simp [Strategy.read?, methodRouter?]
  | verbCall => simp [Strategy.read?, verbCall?]
  | resourceVerb => rcases hverb with hverb | hverb <;> simp [Strategy.read?, resourceVerb?, hverb]
  | routeTo =>
    simp only [Strategy.read?, routeTo?]
    split
    · next hargs => simp at hargs
    · next target _ hargs =>
      obtain rfl : arg = target := by simpa using hargs
      rw [harg]
    · rfl
  | methodQualifier => simp [Strategy.read?, methodQualifier?, hregistration]
  | dispatch => simp [Strategy.read?, dispatch?]

/-- Such a call reports what is inside it. -/
theorem search_quiet_call {receiver arg : Expr} {method : Ident} (harg : target? arg = none)
    (hverb : Method.ofName? method.text = none ∨ resourcePath? receiver = none)
    (hregistration : registration? receiver = none) (p : Place) :
    search Strategy.all p (.expr (.methodCall receiver method [] [arg])) =
      search Strategy.all p (.expr receiver) ++ search Strategy.all p (.expr arg) := by
  have hnone := strategy?_eq_none harg hverb hregistration
  rw [search_methodCall (by simp [hnone]), ofCall, hnone]
  simp

/-! ## Chains of verbs -/

/-- A method call on a path, such as `.post(create)` or `.layer(trace)`. -/
structure Link where
  method : Ident
  target : PlainPath

namespace Link

/-- The call of a link on an expression. -/
def after (e : Expr) (l : Link) : Expr :=
  .methodCall e l.method [] [l.target.expr]

/-- The method and the handler that a link adds if its name is a verb. -/
def pair? (l : Link) : Option (Method × PlainPath) :=
  (Method.ofName? l.method.text).map fun verb ↦ (verb, l.target)

end Link

/-- A chain such as `get(list).layer(trace).post(create)`. -/
structure VerbChain where
  callee : PlainPath
  verb : Method
  isVerb : Method.ofName? callee.name = some verb
  handler : PlainPath
  links : List Link

namespace VerbChain

/-- The chain as an expression. -/
def expr (c : VerbChain) : Expr :=
  c.links.foldl Link.after (.call c.callee.expr [c.handler.expr])

/-- The methods and handlers of a chain, as they are declared. -/
def pairs (c : VerbChain) : List (Method × PlainPath) :=
  (c.verb, c.handler) :: c.links.filterMap Link.pair?

end VerbChain

/-- A method with the expression of its handler. -/
def pairExpr (pair : Method × PlainPath) : Method × Expr :=
  (pair.1, pair.2.expr)

theorem verbChain_after (e : Expr) (l : Link) :
    verbChain (l.after e) = verbChain e ++ (l.pair?.map pairExpr).toList := by
  cases hverb : Method.ofName? l.method.text with
  | none => simp [verbChain, Link.after, Link.pair?, verbChainBack, hverb]
  | some verb => simp [verbChain, Link.after, Link.pair?, verbChainBack, hverb, pairExpr]

theorem verbChain_foldl (links : List Link) (e : Expr) :
    verbChain (links.foldl Link.after e) =
      verbChain e ++ (links.filterMap Link.pair?).map pairExpr := by
  induction links generalizing e with
  | nil => simp
  | cons l links ih =>
    rw [List.foldl_cons, ih, verbChain_after, List.append_assoc, List.filterMap_cons]
    cases l.pair? <;> rfl

/-- A chain is read link by link. -/
theorem verbChain_expr (c : VerbChain) : verbChain c.expr = c.pairs.map pairExpr := by
  have hcallee : lastName? c.callee.expr = some c.callee.name := c.callee.isLast
  have hfirst : verbChain (.call c.callee.expr [c.handler.expr]) =
      [pairExpr (c.verb, c.handler)] := by
    simp [verbChain, verbChainBack, hcallee, c.isVerb, pairExpr]
  rw [VerbChain.expr, verbChain_foldl, hfirst]
  rfl

/-- Nothing is found in an expression, and no call on it is a verb on a resource or qualifies a
registration. -/
structure Quiet (e : Expr) : Prop where
  resourcePath?_eq : resourcePath? e = none
  registration?_eq : registration? e = none
  search_eq : ∀ p, search Strategy.all p (.expr e) = []

theorem Quiet.after {e : Expr} (h : Quiet e) (l : Link) : Quiet (l.after e) where
  resourcePath?_eq := by
    have htext : text? l.target.expr = none := rfl
    simp [Link.after, resourcePath?, htext, h.resourcePath?_eq]
  registration?_eq := by simp [Link.after, registration?]
  search_eq p := by
    have htarget : target? l.target.expr = none := rfl
    rw [Link.after, search_quiet_call htarget (.inr h.resourcePath?_eq) h.registration?_eq,
      h.search_eq, l.target.search_expr, List.nil_append]

theorem VerbChain.quiet (c : VerbChain) : Quiet c.expr := by
  have hfree : CallFree (.expr (.call c.callee.expr [c.handler.expr])) := by
    refine .mk rfl ?_
    simp only [Node.children, Expr.parts, List.map_cons, List.map_nil, List.mem_cons,
      List.not_mem_nil, or_false, forall_eq_or_imp, forall_eq]
    exact ⟨c.callee.isFree, c.handler.isFree⟩
  have hfirst : Quiet (.call c.callee.expr [c.handler.expr]) := by
    refine ⟨by simp [resourcePath?], by simp [registration?], ?_⟩
    exact search_of_callFree hfree Strategy.all
  exact List.foldlRecOn (motive := Quiet) c.links Link.after hfirst fun _ he l _ ↦ he.after l

/-! ## Chains of routes -/

/-- A call such as `.route("/users", get(list).post(create))`. -/
structure RouteCall where
  path : String
  chain : VerbChain
  line : Nat

namespace RouteCall

/-- The call on an expression. -/
def after (e : Expr) (r : RouteCall) : Expr :=
  .methodCall e ⟨"route", r.line⟩ [] [.literal (.text r.path), r.chain.expr]

/-- The routes of a call: one for each pair of its chain, as they are declared. -/
def routes (p : Place) (r : RouteCall) : List Route :=
  r.chain.pairs.map fun (verb, handler) ↦
    { method := some verb, path := Template.normalize r.path, handler := handler.name,
      origin := ⟨p.file, r.line⟩ }

end RouteCall

theorem callFree_literal (value : Literal) : CallFree (.expr (.literal value)) :=
  .mk rfl (List.forall_mem_nil _)

theorem ofRegistration?_of_path (p : Place) (call : Call) (verb : Method) (path : String)
    (handler : PlainPath) :
    ofRegistration? p call ⟨some verb, path, handler.expr⟩ =
      some { method := some verb, path := Template.normalize path, handler := handler.name,
             origin := ⟨p.file, call.method.line⟩ } := by
  rw [ofRegistration?, handler.ofExpr?_expr]
  rfl

/-- A route call reports its routes before those of its receiver. -/
theorem search_route (p : Place) (e : Expr) (r : RouteCall) :
    search Strategy.all p (.expr (r.after e)) = r.routes p ++ search Strategy.all p (.expr e) := by
  have hread : Strategy.methodRouter.read?
      ⟨e, ⟨"route", r.line⟩, [.literal (.text r.path), r.chain.expr]⟩ =
        some (r.chain.pairs.map fun pair ↦ ⟨some pair.1, r.path, pair.2.expr⟩) := by
    simp [Strategy.read?, methodRouter?, text?, verbChain_expr, VerbChain.pairs, pairExpr]
  have hstrategy := strategy?_of_read? hread
  rw [RouteCall.after, search_methodCall (by simp [hstrategy, Strategy.takesReceiver]),
    ofCall_of_read? hread]
  have hroutes : (r.chain.pairs.map fun pair ↦
      (⟨some pair.1, r.path, pair.2.expr⟩ : Registration)).filterMap
        (ofRegistration? p ⟨e, ⟨"route", r.line⟩, [.literal (.text r.path), r.chain.expr]⟩) =
      r.routes p := by
    simp [RouteCall.routes, List.filterMap_map, ofRegistration?_of_path]
  have hargs : ([.literal (.text r.path), r.chain.expr].flatMap fun arg ↦
      search Strategy.all p (.expr arg)) = [] := by
    simp [search_of_callFree (callFree_literal _), r.chain.quiet.search_eq]
  rw [hroutes, hargs, List.append_nil]

/-- A chain of route calls reports them from the last one back. -/
theorem search_foldl_route (p : Place) (calls : List RouteCall) (base : Expr) :
    search Strategy.all p (.expr (calls.foldl RouteCall.after base)) =
      calls.reverse.flatMap (RouteCall.routes p) ++ search Strategy.all p (.expr base) := by
  induction calls generalizing base with
  | nil => rfl
  | cons r calls ih =>
    rw [List.foldl_cons, ih, search_route, List.reverse_cons, List.flatMap_append,
      List.append_assoc]
    simp

/-! ## Chains on a resource -/

/-- A call such as `.at("/users")`. -/
structure AtCall where
  segment : String
  line : Nat

/-- The call on an expression. -/
def AtCall.after (e : Expr) (a : AtCall) : Expr :=
  .methodCall e ⟨"at", a.line⟩ [] [.literal (.text a.segment)]

/-- A call of a verb on a handler, such as `.get(show)`. -/
structure VerbLink extends Link where
  verb : Method
  isVerb : Method.ofName? method.text = some verb

namespace VerbLink

/-- The call on an expression. -/
def after (e : Expr) (v : VerbLink) : Expr :=
  v.toLink.after e

/-- The route of a verb at a path. -/
def route (p : Place) (path : String) (v : VerbLink) : Route where
  method := some v.verb
  path := Template.normalize path
  handler := v.target.name
  origin := ⟨p.file, v.method.line⟩

end VerbLink

/-- An expression that stands for the resource at a path. -/
structure OnResource (path : String) (e : Expr) : Prop where
  resourcePath?_eq : resourcePath? e = some path
  registration?_eq : registration? e = none

theorem ofName?_at : Method.ofName? "at" = none := by
  decide +kernel

/-- The first segment starts a resource. -/
theorem onResource_first (app : PlainPath) (a : AtCall) :
    OnResource a.segment (a.after app.expr) where
  resourcePath?_eq := by
    have hnone : resourcePath? app.expr = none := by simp [PlainPath.expr, resourcePath?]
    simp [AtCall.after, resourcePath?, text?, hnone]
  registration?_eq := by simp [AtCall.after, registration?]

theorem search_at {e : Expr} (h : registration? e = none) (p : Place) (a : AtCall) :
    search Strategy.all p (.expr (a.after e)) = search Strategy.all p (.expr e) := by
  have htarget : target? (.literal (.text a.segment)) = none := rfl
  have hverb : Method.ofName? (⟨"at", a.line⟩ : Ident).text = none := ofName?_at
  rw [AtCall.after, search_quiet_call htarget (.inl hverb) h,
    search_of_callFree (callFree_literal _), List.append_nil]

namespace OnResource

variable {path : String} {e : Expr}

/-- A further segment is joined to the path. -/
theorem nested (h : OnResource path e) (a : AtCall) :
    OnResource (joinPaths path a.segment) (a.after e) where
  resourcePath?_eq := by simp [AtCall.after, resourcePath?, text?, h.resourcePath?_eq]
  registration?_eq := by simp [AtCall.after, registration?]

theorem foldl_at (h : OnResource path e) (segments : List AtCall) :
    OnResource ((segments.map AtCall.segment).foldl joinPaths path)
      (segments.foldl AtCall.after e) := by
  induction segments generalizing path e with
  | nil => exact h
  | cons a segments ih => exact ih (h.nested a)

theorem search_foldl_at (h : OnResource path e) (p : Place) (segments : List AtCall) :
    search Strategy.all p (.expr (segments.foldl AtCall.after e)) =
      search Strategy.all p (.expr e) := by
  induction segments generalizing path e with
  | nil => rfl
  | cons a segments ih => rw [List.foldl_cons, ih (h.nested a), search_at h.registration?_eq]

/-- A verb leaves the resource as it is. -/
theorem verb (h : OnResource path e) (v : VerbLink) : OnResource path (v.after e) where
  resourcePath?_eq := by
    have hat : v.method.text ≠ "at" := by
      intro hat
      have hverb := v.isVerb
      rw [hat, ofName?_at] at hverb
      exact absurd hverb (by simp)
    simp [VerbLink.after, Link.after, resourcePath?, hat, v.isVerb, h.resourcePath?_eq]
  registration?_eq := by simp [VerbLink.after, Link.after, registration?]

/-- A verb reports its route before those of its receiver. -/
theorem search_verb (h : OnResource path e) (p : Place) (v : VerbLink) :
    search Strategy.all p (.expr (v.after e)) =
      v.route p path :: search Strategy.all p (.expr e) := by
  have hread : Strategy.resourceVerb.read? ⟨e, v.method, [v.target.expr]⟩ =
      some [⟨some v.verb, path, v.target.expr⟩] := by
    simp [Strategy.read?, resourceVerb?, v.isVerb, h.resourcePath?_eq]
  have hstrategy := strategy?_of_read? hread
  rw [VerbLink.after, Link.after,
    search_methodCall (by simp [hstrategy, Strategy.takesReceiver]), ofCall_of_read? hread]
  simp [ofRegistration?_of_path, VerbLink.route, v.target.search_expr]

theorem search_foldl_verb (h : OnResource path e) (p : Place) (verbs : List VerbLink) :
    search Strategy.all p (.expr (verbs.foldl VerbLink.after e)) =
      verbs.reverse.map (VerbLink.route p path) ++ search Strategy.all p (.expr e) := by
  induction verbs generalizing e with
  | nil => rfl
  | cons v verbs ih =>
    rw [List.foldl_cons, ih (h.verb v), h.search_verb, List.reverse_cons, List.map_append,
      List.append_assoc]
    rfl

end OnResource

/-- The path of nested resources: each segment is put behind a single slash, which replaces the
slashes at the end of the path so far and at the start of the segment. -/
def nestedPath (first : String) (rest : List String) : String :=
  rest.foldl (fun path segment ↦ String.ofList (path.toList.rdropWhile (· == '/')) ++ "/" ++
    String.ofList (segment.toList.dropWhile (· == '/'))) first

theorem foldl_joinPaths (first : String) (rest : List String) :
    rest.foldl joinPaths first = nestedPath first rest := by
  unfold nestedPath
  congr 1
  funext path segment
  rw [joinPaths, Text.trimFinal, Text.dropEndWhile_eq_rdropWhile, Text.trimLead]

/-- Each call of a chain of registrations is reported once. Route calls on an expression without
method calls are reported from the last one back, each with the pairs of its chain of verbs as they
are declared; links that are no verbs add nothing, whatever their names are. Verbs on a nested
resource are reported from the last one back, all at the path that its segments make up. -/
theorem chained_registrations_reported_once (p : Place) :
    (∀ (base : Expr) (calls : List RouteCall), CallFree (.expr base) →
      search Strategy.all p (.expr (calls.foldl RouteCall.after base)) =
        calls.reverse.flatMap (RouteCall.routes p)) ∧
      ∀ (app : PlainPath) (first : AtCall) (rest : List AtCall) (verbs : List VerbLink),
        search Strategy.all p
            (.expr (verbs.foldl VerbLink.after ((first :: rest).foldl AtCall.after app.expr))) =
          verbs.reverse.map
            (VerbLink.route p (nestedPath first.segment (rest.map AtCall.segment))) := by
  constructor
  · intro base calls hbase
    rw [search_foldl_route, search_of_callFree hbase, List.append_nil]
  · intro app first rest verbs
    have hfirst := onResource_first app first
    have hregistration : registration? app.expr = none := rfl
    rw [← foldl_joinPaths, List.foldl_cons, (hfirst.foldl_at rest).search_foldl_verb,
      hfirst.search_foldl_at, search_at hregistration, app.search_expr, List.append_nil]

/-- The path of some names. -/
def PlainPath.ofNames (front : List String) (name : String) : PlainPath where
  segments := (front ++ [name]).map .plain
  name := name
  isLast := by simp [Segment.name]
  isFree := by
    refine .mk rfl ?_
    simp [Node.children, Expr.parts, optionalType, Segment.parts]

/-- `Router::new()` -/
def newRouter : Expr :=
  .call (PlainPath.ofNames ["Router"] "new").expr []

/-- `.route("/users", get(list).layer(trace).post(create))` and, on the next line,
`.route("/users/:id", get(show))` -/
def userCalls : List RouteCall :=
  [⟨"/users", ⟨.ofNames [] "get", .get, by decide +kernel, .ofNames [] "list",
      [⟨⟨"layer", 2⟩, .ofNames [] "trace"⟩, ⟨⟨"post", 2⟩, .ofNames ["users"] "create"⟩]⟩, 2⟩,
    ⟨"/users/:id",
      ⟨.ofNames ["routing"] "get", .get, by decide +kernel, .ofNames [] "show", []⟩, 3⟩]

/-- `.get(show)` and, on the next line, `.put(update)` -/
def memberVerbs : List VerbLink :=
  [⟨⟨⟨"get", 5⟩, .ofNames [] "show"⟩, .get, by decide +kernel⟩,
    ⟨⟨⟨"put", 6⟩, .ofNames [] "update"⟩, .put, by decide +kernel⟩]

theorem registrations_of_users :
    CallFree (.expr newRouter) ∧
      search Strategy.all ⟨"app.rs", []⟩ (.expr (userCalls.foldl RouteCall.after newRouter)) =
        [{ method := some .get, path := "/users/\x7bid\x7d", handler := "show",
           origin := ⟨"app.rs", 3⟩ },
         { method := some .get, path := "/users", handler := "list", origin := ⟨"app.rs", 2⟩ },
         { method := some .post, path := "/users", handler := "create",
           origin := ⟨"app.rs", 2⟩ }] ∧
      search Strategy.all ⟨"app.rs", []⟩ (.expr (memberVerbs.foldl VerbLink.after
          ([⟨"/teams/", 4⟩, ⟨"/:id", 4⟩].foldl AtCall.after (PlainPath.ofNames [] "app").expr))) =
        [{ method := some .put, path := "/teams/\x7bid\x7d", handler := "update",
           origin := ⟨"app.rs", 6⟩ },
         { method := some .get, path := "/teams/\x7bid\x7d", handler := "show",
           origin := ⟨"app.rs", 5⟩ }] := by
  have hfree : CallFree (.expr newRouter) := by
    refine .mk rfl ?_
    simp only [newRouter, Node.children, Expr.parts, List.map_nil, List.mem_singleton, forall_eq]
    exact (PlainPath.ofNames ["Router"] "new").isFree
  have hlayer : Method.ofName? "layer" = none := by decide +kernel
  have hpost : Method.ofName? "post" = some .post := by decide +kernel
  have hmembers : Template.normalize "/users/:id" = "/users/\x7bid\x7d" := by decide
  have husers : Template.normalize "/users" = "/users" := by decide
  have hreported := chained_registrations_reported_once ⟨"app.rs", []⟩
  refine ⟨hfree, (hreported.1 newRouter userCalls hfree).trans ?_,
    (hreported.2 (.ofNames [] "app") ⟨"/teams/", 4⟩ [⟨"/:id", 4⟩] memberVerbs).trans ?_⟩
  · simp [userCalls, RouteCall.routes, VerbChain.pairs, Link.pair?, PlainPath.ofNames, hlayer,
      hpost, hmembers, husers]
  · rfl

end ApiAtlas.Route
