import ApiAtlas.Route.Shape
import Mathlib.Data.List.Induction
import Mathlib.Data.List.Nodup

/-!
# Options of handlers

A registration may wrap its handler in a call and give options, as further arguments of that call or
as methods on it. The two forms are read by different recursions: one goes through the arguments
from left to right, the other unwinds the receivers from the outside. Both collect the same tags and
security requirements, each of them once and in the order in which it was first given, so that an
option may be moved from one place to the other.
-/

namespace ApiAtlas.Route

open Source

/-! ## First occurrences -/

section FirstOccurrences

variable {α : Type} [BEq α] [LawfulBEq α]

theorem eraseDups_concat (l : List α) (a : α) :
    (l ++ [a]).eraseDups = if l.eraseDups.contains a then l.eraseDups else l.eraseDups ++ [a] := by
  rw [List.eraseDups_append]
  by_cases ha : a ∈ l
  · simp [List.removeAll, ha]
  · simp [List.removeAll, ha, List.eraseDups_cons]

theorem nodup_eraseDups (l : List α) : l.eraseDups.Nodup := by
  induction l using List.reverseRecOn with
  | nil => simp
  | append_singleton l a ih =>
    rw [eraseDups_concat]
    split
    · exact ih
    · next hnew =>
      rw [← List.concat_eq_append]
      exact ih.concat (by simpa using hnew)

theorem eraseDups_of_nodup {l : List α} (h : l.Nodup) : l.eraseDups = l := by
  induction l using List.reverseRecOn with
  | nil => simp
  | append_singleton l a ih =>
    obtain ⟨hl, -, hnew⟩ := List.nodup_append.1 h
    have ha : a ∉ l := fun ha ↦ hnew a ha a List.mem_cons_self rfl
    rw [eraseDups_concat, ih hl, if_neg (by simpa using ha)]

end FirstOccurrences

namespace HandlerRef

/-- The handler of a name with the tags and requirements of two lists, each of them once. -/
def collecting (name : String) (tags : List String) (security : List Security) : HandlerRef :=
  ⟨name, tags.eraseDups, security.eraseDups⟩

/-- No tag and no requirement is listed twice. -/
structure IsDistinct (handler : HandlerRef) : Prop where
  tags : handler.tags.Nodup
  security : handler.security.Nodup

theorem isDistinct_collecting (name : String) (tags : List String) (security : List Security) :
    (collecting name tags security).IsDistinct :=
  ⟨nodup_eraseDups tags, nodup_eraseDups security⟩

theorem IsDistinct.eq_collecting {handler : HandlerRef} (h : handler.IsDistinct) :
    handler = collecting handler.name handler.tags handler.security := by
  rw [collecting, eraseDups_of_nodup h.tags, eraseDups_of_nodup h.security]

theorem addTag_collecting (name tag : String) (tags : List String) (security : List Security) :
    (collecting name tags security).addTag tag = collecting name (tags ++ [tag]) security := by
  unfold addTag collecting
  rw [eraseDups_concat]
  split <;> rfl

theorem addSecurity_collecting (name : String) (tags : List String) (security : List Security)
    (requirement : Security) :
    (collecting name tags security).addSecurity requirement =
      collecting name tags (security ++ [requirement]) := by
  unfold addSecurity collecting
  rw [eraseDups_concat]
  split <;> rfl

theorem foldl_addTag_collecting (name : String) (tags new : List String)
    (security : List Security) :
    new.foldl addTag (collecting name tags security) = collecting name (tags ++ new) security := by
  induction new generalizing tags with
  | nil => simp
  | cons tag new ih =>
    calc
      _ = new.foldl addTag (collecting name (tags ++ [tag]) security) := by
        rw [List.foldl_cons, addTag_collecting]
      _ = collecting name (tags ++ [tag] ++ new) security := ih (tags ++ [tag])
      _ = _ := by rw [List.append_assoc, List.singleton_append]

end HandlerRef

/-! ## Options -/

/-- An option with its arguments, such as `with_tags(["users"])`. -/
structure HandlerOption where
  name : Ident
  args : List Expr

namespace HandlerOption

open HandlerRef

/-- The option as an argument: a call of the function of its name. -/
def asArgument (o : HandlerOption) : Expr :=
  .call (.path none [.plain o.name.text]) o.args

/-- The option as a method of an expression. -/
def asMethod (receiver : Expr) (o : HandlerOption) : Expr :=
  .methodCall receiver o.name [] o.args

/-- The tags that an option adds. -/
def tags (o : HandlerOption) : List String :=
  if o.name.text = "with_tags" ∨ o.name.text = "tags" then texts o.args else []

/-- The security requirements that an option adds. -/
def security (o : HandlerOption) : List Security :=
  match o.name.text with
  | "with_basic_auth" => [.basic]
  | "with_bearer" | "with_bearer_auth" => [.bearer (texts o.args)]
  | "with_api_key" => [.apiKey ((o.args.head?.bind text?).getD defaultHeader)]
  | _ => []

theorem applyOption_collecting (o : HandlerOption) (name : String) (tags : List String)
    (security : List Security) :
    (collecting name tags security).applyOption o.name.text o.args =
      collecting name (tags ++ o.tags) (security ++ o.security) := by
  unfold applyOption HandlerOption.tags HandlerOption.security
  split <;> simp_all [foldl_addTag_collecting, addSecurity_collecting]

theorem foldl_applyArgument_collecting (options : List HandlerOption) (name : String)
    (given : List String) (required : List Security) :
    (options.map asArgument).foldl applyArgument (collecting name given required) =
      collecting name (given ++ options.flatMap tags) (required ++ options.flatMap security) := by
  induction options generalizing given required with
  | nil => simp
  | cons o options ih =>
    calc
      _ = (options.map asArgument).foldl applyArgument
          ((collecting name given required).applyOption o.name.text o.args) := rfl
      _ = (options.map asArgument).foldl applyArgument
          (collecting name (given ++ o.tags) (required ++ o.security)) := by
        rw [applyOption_collecting]
      _ = _ := by simp [ih]

/-- Each method on a call adds what its option says to what the receiver has collected. -/
theorem ofExpr?_foldl_asMethod (options : List HandlerOption) {wrappers : List String} {e : Expr}
    {name : String} {given : List String} {required : List Security} (hcall : isCall e = true)
    (he : ofExpr? wrappers e = some (collecting name given required)) :
    ofExpr? wrappers (options.foldl asMethod e) =
      some (collecting name (given ++ options.flatMap tags)
        (required ++ options.flatMap security)) := by
  induction options generalizing e given required with
  | nil => simpa using he
  | cons o options ih =>
    have hstep : ofExpr? wrappers (asMethod e o) =
        some (collecting name (given ++ o.tags) (required ++ o.security)) := by
      rw [asMethod, ofExpr?, if_pos hcall, he, Option.map_some, applyOption_collecting]
    rw [List.foldl_cons, ih rfl hstep]
    simp

/-- A call of a wrapping function on a handler. The first options are arguments of the call, and the
others are methods on it. -/
def wrapped (callee handler : Expr) (options : List HandlerOption) (count : Nat) : Expr :=
  (options.drop count).foldl asMethod
    (.call callee (handler :: (options.take count).map asArgument))

theorem ofExpr?_wrapped {wrappers : List String} {callee e : Expr} {wrapper name : String}
    {given : List String} {required : List Security} (hcallee : lastName? callee = some wrapper)
    (hwrapper : wrapper ∈ wrappers)
    (he : ofExpr? wrappers e = some (collecting name given required))
    (options : List HandlerOption) (count : Nat) :
    ofExpr? wrappers (wrapped callee e options count) =
      some (collecting name (given ++ options.flatMap tags)
        (required ++ options.flatMap security)) := by
  have hcontains : wrappers.contains wrapper = true := List.contains_iff_mem.2 hwrapper
  have hcall : ofExpr? wrappers (.call callee (e :: (options.take count).map asArgument)) =
      some (collecting name (given ++ (options.take count).flatMap tags)
        (required ++ (options.take count).flatMap security)) := by
    simp only [ofExpr?, hcallee, hcontains, if_true, he, Option.map_some,
      foldl_applyArgument_collecting]
  rw [wrapped, ofExpr?_foldl_asMethod _ rfl hcall, List.append_assoc, List.append_assoc,
    ← List.flatMap_append, ← List.flatMap_append, List.take_append_drop]

end HandlerOption

/-! ## Nothing is listed twice -/

namespace HandlerRef

theorem IsDistinct.applyOption {handler : HandlerRef} (h : handler.IsDistinct) (option : String)
    (args : List Expr) : (handler.applyOption option args).IsDistinct := by
  rw [h.eq_collecting, HandlerOption.applyOption_collecting ⟨⟨option, 0⟩, args⟩]
  exact isDistinct_collecting _ _ _

theorem IsDistinct.applyArgument {handler : HandlerRef} (h : handler.IsDistinct) (e : Expr) :
    (handler.applyArgument e).IsDistinct := by
  fun_induction HandlerRef.applyArgument handler e with
  | case1 callee args option => exact h.applyOption option args
  | case2 => exact h
  | case3 parts inner ih => exact ih
  | case4 => exact h

theorem IsDistinct.foldl_applyArgument {handler : HandlerRef} (h : handler.IsDistinct)
    (options : List Expr) : (options.foldl HandlerRef.applyArgument handler).IsDistinct := by
  induction options generalizing handler with
  | nil => exact h
  | cons e options ih => exact ih (h.applyArgument e)

/-- The handler of every expression that mentions one has its tags and requirements once. -/
theorem isDistinct_of_ofExpr? {wrappers : List String} {e : Expr} {handler : HandlerRef}
    (h : ofExpr? wrappers e = some handler) : handler.IsDistinct := by
  fun_induction ofExpr? wrappers e generalizing handler with
  | case1 qualifier segments =>
    obtain ⟨segment, -, rfl⟩ := Option.map_eq_some_iff.1 h
    exact isDistinct_collecting _ [] []
  | case2 target ih => exact ih h
  | case3 inner ih => exact ih h
  | case4 callee first options name hname hwrapper ih =>
    obtain ⟨inner, hinner, rfl⟩ := Option.map_eq_some_iff.1 h
    exact (ih hinner).foldl_applyArgument options
  | case5 => simp at h
  | case6 => simp at h
  | case7 receiver method generics args hcall ih =>
    obtain ⟨inner, hinner, rfl⟩ := Option.map_eq_some_iff.1 h
    exact (ih hinner).applyOption method.text args
  | case8 => simp at h
  | case9 parts inner ih => exact ih h
  | case10 => simp at h

end HandlerRef

namespace HandlerOption

open HandlerRef

/-- Options mean the same as arguments and as methods. A call of a wrapping function on an
expression that mentions a handler gives one and the same handler however many of the options, from
the left, are arguments: that of the expression with the tags and requirements of the options in
their order, each of them once. And no expression at all mentions a handler with a tag or a
requirement twice. -/
theorem options_as_arguments_or_methods (wrappers : List String) :
    (∀ (callee : Expr) (wrapper : String), lastName? callee = some wrapper → wrapper ∈ wrappers →
      ∀ (e : Expr) (handler : HandlerRef), ofExpr? wrappers e = some handler →
      ∀ (options : List HandlerOption) (count : Nat), count ≤ options.length →
        ofExpr? wrappers (wrapped callee e options count) =
          some ⟨handler.name, (handler.tags ++ options.flatMap tags).eraseDups,
            (handler.security ++ options.flatMap security).eraseDups⟩) ∧
    ∀ (e : Expr) (handler : HandlerRef), ofExpr? wrappers e = some handler →
      handler.tags.Nodup ∧ handler.security.Nodup := by
  constructor
  · intro callee wrapper hcallee hwrapper e handler he options count _
    rw [(isDistinct_of_ofExpr? he).eq_collecting] at he
    exact ofExpr?_wrapped hcallee hwrapper he options count
  · intro e handler he
    have hdistinct : handler.IsDistinct := isDistinct_of_ofExpr? he
    exact ⟨hdistinct.tags, hdistinct.security⟩

/-- A list of tags that begins with one that is repeated, a requirement that comes twice, and an
option that is not known. -/
def userOptions : List HandlerOption :=
  [⟨⟨"with_tags", 1⟩, [.reference (.array [.literal (.text "users"), .literal (.text "admin")])]⟩,
    ⟨⟨"with_api_key", 1⟩, []⟩, ⟨⟨"traced", 2⟩, []⟩,
    ⟨⟨"tags", 3⟩, [.literal (.text "public"), .macroCall [.literal (.text "users")]]⟩,
    ⟨⟨"with_api_key", 4⟩, [.literal (.text "X-API-Key")]⟩]

/-- A wrapped handler of its own, with a tag. -/
def taggedHandler : Expr :=
  .reference (.methodCall (.call (.path none [.plain "build_handler"])
    [.path none [.plain "handlers", .plain "list"]]) ⟨"tags", 1⟩ [] [.literal (.text "admin")])

theorem options_of_tagged_handler :
    let callee : Expr := .path none [.plain "web", .plain "build_handler"]
    let found := fun count ↦
      ofExpr? ["build_handler"] (wrapped callee taggedHandler userOptions count)
    found 0 = some ⟨"list", ["admin", "users", "public"], [.apiKey "X-API-Key"]⟩ ∧
      found 3 = found 0 ∧ found 5 = found 0 := by
  intro callee found
  have hhandler : ofExpr? ["build_handler"] taggedHandler = some ⟨"list", ["admin"], []⟩ := rfl
  have hfound := (options_as_arguments_or_methods ["build_handler"]).1 callee "build_handler" rfl
    List.mem_cons_self taggedHandler _ hhandler userOptions
  have hzero := hfound 0 (by decide)
  refine ⟨?_, ?_, ?_⟩
  · exact hzero.trans (by decide)
  · exact (hfound 3 (by decide)).trans hzero.symm
  · exact (hfound 5 (by decide)).trans hzero.symm

end HandlerOption

end ApiAtlas.Route
