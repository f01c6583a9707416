import ApiAtlas.Route.Search
import Mathlib.Data.List.Basic

/-!
# The order of the strategies

A call has the shape of at most one strategy. The name of the method and the number of arguments
leave a single candidate, except that two strategies share `route` with two arguments. There the
last argument decides, because a target names its method by a call without arguments, which never
counts as a link of a chain. So the first strategy that accepts a call is the only one, and the
routes of a file do not depend on the order in which strategies are asked.
-/

namespace ApiAtlas.Route

open Source

/-- The words that strategies look for are no verbs. -/
theorem ofName?_of_mem {word : String}
    (h : word ∈ ["handle", "handle_func", "add", "method", "methods", "route", "to"]) :
    Method.ofName? word = none := by
  revert word
  decide +kernel

/-! ## Targets are no chains -/

theorem verbChainBack_of_calledMethod? {e : Expr} {m : Method} (h : calledMethod? e = some m) :
    verbChainBack e = [] := by
  fun_induction calledMethod? e with
  | case1 callee => simp [verbChainBack]
  | case2 parts inner ih => rw [verbChainBack, ih h]
  | case3 => simp at h

/-- A target adds no link to a chain, neither by its method `to` nor by the call that it starts
with. -/
theorem verbChainBack_of_target? {e : Expr} {found : Method × Expr} (h : target? e = some found) :
    verbChainBack e = [] := by
  fun_induction target? e with
  | case1 receiver method generics handler hto =>
    obtain ⟨verb, hverb, -⟩ := Option.map_eq_some_iff.1 h
    have hname : method.text = "to" := by simpa using hto
    have hnone : Method.ofName? method.text = none := ofName?_of_mem (by simp [hname])
    simp only [verbChainBack, hnone]
    exact verbChainBack_of_calledMethod? hverb
  | case2 => simp at h
  | case3 parts inner ih => rw [verbChainBack, ih h]
  | case4 => simp at h

/-! ## The candidate -/

/-- The only strategy whose shape a call may have. -/
def candidate (call : Call) : Strategy :=
  if ["handle", "handle_func", "add"].contains call.method.text then .dispatch
  else if call.method.text == "method" || call.method.text == "methods" then .methodQualifier
  else if call.method.text == "route" then
    if (call.args.getLast?.bind target?).isSome then .routeTo else .methodRouter
  else if call.args.length == 1 then .resourceVerb
  else .verbCall

variable {call : Call} {found : List Registration}

theorem candidate_of_verb {verb : Method} (h : Method.ofName? call.method.text = some verb) :
    candidate call = if call.args.length == 1 then .resourceVerb else .verbCall := by
  have hword : call.method.text ∉
      ["handle", "handle_func", "add", "method", "methods", "route", "to"] := by
    intro hmem
    rw [ofName?_of_mem hmem] at h
    exact absurd h (by simp)
  simp only [List.mem_cons, not_or] at hword
  simp [candidate, hword]

theorem candidate_of_methodRouter? (h : methodRouter? call = some found) :
    candidate call = .methodRouter := by
  unfold methodRouter? at h
  split at h
  · next path chain hmethod hargs =>
    -- A target is a chain without links, which this strategy does not accept.
    have htarget : target? chain = none := by
      rw [Option.eq_none_iff_forall_ne_some]
      intro target htarget
      simp [verbChain, verbChainBack_of_target? htarget] at h
    simp [candidate, hmethod, hargs, htarget]
  · simp at h

theorem candidate_of_verbCall? (h : verbCall? call = some found) : candidate call = .verbCall := by
  unfold verbCall? at h
  split at h
  · next path handler verb hargs hverb =>
    rw [candidate_of_verb hverb, hargs]
    rfl
  · simp at h

theorem candidate_of_resourceVerb? (h : resourceVerb? call = some found) :
    candidate call = .resourceVerb := by
  unfold resourceVerb? at h
  split at h
  · next handler verb path hargs hverb _ =>
    rw [candidate_of_verb hverb, hargs]
    rfl
  · simp at h

theorem candidate_of_routeTo? (h : routeTo? call = some found) : candidate call = .routeTo := by
  unfold routeTo? at h
  split at h
  · next path target hmethod hargs =>
    cases htarget : target? target with
    | none => simp [htarget] at h
    | some _ => simp [candidate, hmethod, hargs, htarget]
  · next target hmethod hargs =>
    cases htarget : target? target with
    | none => simp [htarget] at h
    | some _ => simp [candidate, hmethod, hargs, htarget]
  · simp at h

theorem candidate_of_methodQualifier? (h : methodQualifier? call = some found) :
    candidate call = .methodQualifier := by
  unfold methodQualifier? at h
  split at h
  · next hword =>
    have hother : ["handle", "handle_func", "add"].contains call.method.text = false := by
      rw [Bool.or_eq_true, beq_iff_eq, beq_iff_eq] at hword
      rcases hword with hmethod | hmethods
      · rw [hmethod]
        rfl
      · rw [hmethods]
        rfl
    rw [candidate, hother, if_neg Bool.false_ne_true, if_pos hword]
  · simp at h

theorem candidate_of_dispatch? (h : dispatch? call = some found) : candidate call = .dispatch := by
  unfold dispatch? at h
  split at h
  · split at h
    · next hword => rw [candidate, if_pos hword]
    · simp at h
  · simp at h

/-- A strategy that accepts a call is its candidate. -/
theorem candidate_of_accepts {s : Strategy} (h : s.accepts call = true) : candidate call = s := by
  obtain ⟨found, hfound⟩ := Option.isSome_iff_exists.1 h
  cases s with
  | methodRouter => exact candidate_of_methodRouter? hfound
  | verbCall => exact candidate_of_verbCall? hfound
  | resourceVerb => exact candidate_of_resourceVerb? hfound
  | routeTo => exact candidate_of_routeTo? hfound
  | methodQualifier => exact candidate_of_methodQualifier? hfound
  | dispatch => exact candidate_of_dispatch? hfound

/-! ## Searching -/

/-- Of the order in which strategies are asked only their presence remains. -/
theorem strategy?_eq (strategies : List Strategy) (call : Call) :
    strategy? strategies call =
      if candidate call ∈ strategies ∧ (candidate call).accepts call = true then
        some (candidate call)
      else none := by
  unfold strategy?
  cases hfirst : strategies.find? fun s ↦ s.accepts call with
  | none =>
    rw [if_neg]
    rintro ⟨hmem, haccepts⟩
    exact List.find?_eq_none.1 hfirst _ hmem haccepts
  | some s =>
    have haccepts := List.find?_some hfirst
    rw [candidate_of_accepts haccepts, if_pos ⟨List.mem_of_find?_eq_some hfirst, haccepts⟩]

theorem strategy?_of_perm {strategies others : List Strategy} (h : strategies.Perm others) :
    strategy? strategies = strategy? others := by
  funext call
  rw [strategy?_eq, strategy?_eq]
  simp only [h.mem_iff]

theorem search_eq (strategies : List Strategy) (p : Place) (node : Node) :
    search strategies p node =
      ofNode strategies p node ++ (below strategies node).flatMap (search strategies p) := by
  rw [search]
  simp

/-- A search depends on the strategies only through the one that each call is given to. -/
theorem search_congr {strategies others : List Strategy}
    (h : strategy? strategies = strategy? others) (p : Place) (node : Node) :
    search strategies p node = search others p node := by
  induction hsize : sizeOf node using Nat.strongRecOn generalizing node with
  | _ size ih =>
    have hnode : ofNode strategies p node = ofNode others p node := by
      simp only [ofNode, ofCall, h]
    have hbelow : below strategies node = below others node := by
      simp only [below, h]
    rw [search_eq, search_eq, hnode, hbelow]
    congr 1
    apply List.flatMap_congr
    intro n hn
    exact ih (sizeOf n) (hsize ▸ sizeOf_lt_of_mem_below hn) n rfl

/-- No call has the shapes of two strategies, and so a file has the same routes in the same order
whatever the order in which the strategies are asked. -/
theorem routes_independent_of_strategy_order :
    (∀ (call : Call) (s other : Strategy), s.accepts call = true → other.accepts call = true →
      s = other) ∧
      ∀ strategies : List Strategy, strategies.Perm Strategy.all →
        ∀ (config : Config) (file : SourceFile),
          ofFileWith strategies config file = ofFileWith Strategy.all config file := by
  constructor
  · intro call s other hs hother
    exact (candidate_of_accepts hs).symm.trans (candidate_of_accepts hother)
  · intro strategies hperm config file
    unfold ofFileWith
    apply List.flatMap_congr
    intro node _
    exact search_congr (strategy?_of_perm hperm) _ node

/-- The call `web::scope("/api").route("/users", web::get().to(show))`, which has the name and the
number of arguments of two strategies. -/
def scopedCall : Call :=
  ⟨.call (.path none [.plain "web", .plain "scope"]) [.literal (.text "/api")], ⟨"route", 1⟩,
    [.literal (.text "/users"),
      .methodCall (.call (.path none [.plain "web", .plain "get"]) []) ⟨"to", 1⟩ []
        [.path none [.plain "show"]]]⟩

/-- A file whose only item is a constant with that call as its value. -/
def scopedFile : SourceFile :=
  ⟨"app.rs", "", [], [.constant [] (.tuple [])
    (.methodCall scopedCall.receiver scopedCall.method [] scopedCall.args)]⟩

theorem routes_of_scopedFile_in_reverse :
    Strategy.routeTo.accepts scopedCall = true ∧
      (∀ other : Strategy, other.accepts scopedCall = true → Strategy.routeTo = other) ∧
      ofFileWith Strategy.all.reverse {} scopedFile = ofFileWith Strategy.all {} scopedFile := by
  have haccepts : Strategy.routeTo.accepts scopedCall = true := by decide +kernel
  refine ⟨haccepts, fun other hother ↦ ?_, ?_⟩
  · exact routes_independent_of_strategy_order.1 scopedCall _ other haccepts hother
  · exact routes_independent_of_strategy_order.2 _ (List.reverse_perm _) {} scopedFile

end ApiAtlas.Route
