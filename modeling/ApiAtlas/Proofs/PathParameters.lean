import ApiAtlas.Proofs.Placement
import ApiAtlas.Proofs.Template

/-!
# Which placeholders of a path are documented

A segment may mix text and placeholders, as in `/files/{name}.{ext}`. Normalizing keeps all of them,
but the names of a template are taken one per segment, and an operation has a path parameter for
each of those names. So the path parameters of an operation are the first placeholders of the
segments, and they are all placeholders exactly if no segment has two of them.
-/

namespace ApiAtlas.Template

open Text

/-! ## Mixed segments -/

/-- A part of a segment: literal text, or a placeholder between braces. -/
inductive Piece
  | text (cs : List Char)
  | placeholder (name : List Char)
  deriving DecidableEq

namespace Piece

/-- A part as it is written. -/
def write : Piece → List Char
  | .text cs => cs
  | .placeholder name => Style.brace.write name

/-- The name of the placeholder that a part is. -/
def name? : Piece → Option (List Char)
  | .text _ => none
  | .placeholder name => some name

/-- Literal text has no slash and nothing that belongs to a placeholder. -/
def Regular : Piece → Prop
  | .text cs => ∀ c ∈ cs, c ∉ ['/', '\x7b', '\x7d', '<', '>', ':', '*']
  | .placeholder name => IsName name

instance : (p : Piece) → Decidable p.Regular
  | .text cs => decidable_of_iff
      (cs.all fun c ↦ c ∉ ['/', '\x7b', '\x7d', '<', '>', ':', '*']) (by simp [Regular])
  | .placeholder name => inferInstanceAs (Decidable (IsName name))

end Piece

/-- A segment as it is written. -/
def writeSegment (pieces : List Piece) : List Char :=
  pieces.flatMap Piece.write

/-- The names of the placeholders of a segment. -/
def namesIn (pieces : List Piece) : List (List Char) :=
  pieces.filterMap Piece.name?

/-- The path of a list of segments. -/
def mixedPath (segments : List (List Piece)) : String :=
  String.ofList (joinWith ['/'] (segments.map writeSegment))

/-- The names of all placeholders of a path in their order. -/
def allNames (segments : List (List Piece)) : List String :=
  (segments.flatMap namesIn).map String.ofList

/-- No segment of a path has two placeholders. -/
def OnePerSegment (segments : List (List Piece)) : Prop :=
  ∀ pieces ∈ segments, (namesIn pieces).length ≤ 1

instance (segments : List (List Piece)) : Decidable (OnePerSegment segments) :=
  inferInstanceAs (Decidable (∀ pieces ∈ segments, (namesIn pieces).length ≤ 1))

section

variable {pieces : List Piece}

/-- Between braces a name is in normal form already, and text is kept. -/
theorem exists_normalizeFrom_writeSegment (h : ∀ p ∈ pieces, p.Regular) (isStart : Bool)
    (rest : List Char) :
    ∃ other, normalizeFrom (.text isStart) (writeSegment pieces ++ rest) =
      writeSegment pieces ++ normalizeFrom (.text other) rest := by
  unfold writeSegment
  induction pieces generalizing isStart with
  | nil => exact ⟨isStart, rfl⟩
  | cons p pieces ih =>
    have hp := h p List.mem_cons_self
    have hpieces := ih fun q hq ↦ h q (List.mem_cons_of_mem _ hq)
    rw [List.flatMap_cons, List.append_assoc]
    cases p with
    | text cs =>
      have hmarks : ∀ marks : List Char, marks ⊆ ['/', '\x7b', '\x7d', '<', '>', ':', '*'] →
          ∀ c ∈ cs, c ∉ marks := fun _ hsub c hc hmem ↦ hp c hc (hsub hmem)
      obtain ⟨other, hother⟩ := hpieces (isStart && cs.isEmpty)
      refine ⟨other, ?_⟩
      rw [Piece.write, normalizeFrom_text (hmarks _ (by decide)) fun _ c hc ↦
        hmarks _ (by decide) c (List.mem_of_mem_head? hc), hother, List.append_assoc]
    | placeholder name =>
      obtain ⟨other, hother⟩ := hpieces false
      refine ⟨other, ?_⟩
      have hname : IsName name := hp
      have hself := hname.placeholder_eq (List.forall_mem_nil _) (.inl rfl)
      rw [List.nil_append, List.append_nil] at hself
      calc
        _ = normalizeFrom (.text isStart)
            ('\x7b' :: (name ++ '\x7d' :: (pieces.flatMap Piece.write ++ rest))) := by
          simp [Piece.write, Style.write]
        _ = placeholder name ++
            normalizeFrom (.text false) (pieces.flatMap Piece.write ++ rest) :=
          normalizeFrom_braces isStart hname.balancedFrom_eq _
        _ = _ := by rw [hself, hother, Piece.write, List.append_assoc]

theorem normalizes_writeSegment (h : ∀ p ∈ pieces, p.Regular) :
    Normalizes (writeSegment pieces) (writeSegment pieces) := by
  intro rest hrest
  obtain ⟨other, hother⟩ := exists_normalizeFrom_writeSegment h true rest
  rw [hother, hrest.normalizeFrom_eq other true]

theorem notMem_slash_writeSegment (h : ∀ p ∈ pieces, p.Regular) : '/' ∉ writeSegment pieces := by
  intro hmem
  obtain ⟨p, hp, hslash⟩ := List.mem_flatMap.1 hmem
  cases p with
  | text cs => exact h _ hp '/' hslash (by decide)
  | placeholder name =>
    have hname : '/' ∉ name := (h _ hp : IsName name).notMem (by decide)
    simp [Piece.write, Style.write, hname] at hslash

/-- Of a segment the first placeholder is found. -/
theorem segmentParam?_writeSegment (h : ∀ p ∈ pieces, p.Regular) :
    segmentParam? (writeSegment pieces) = (namesIn pieces).head? := by
  unfold writeSegment namesIn
  induction pieces with
  | nil => rfl
  | cons p pieces ih =>
    have hpieces := ih fun q hq ↦ h q (List.mem_cons_of_mem _ hq)
    rw [List.flatMap_cons]
    cases p with
    | text cs =>
      have hbrace : '\x7b' ∉ cs := fun hmem ↦ h _ List.mem_cons_self _ hmem (by decide)
      rw [Piece.write, segmentParam?_append hbrace, hpieces]
      rfl
    | placeholder name =>
      have hname : IsName name := h _ List.mem_cons_self
      have hfound := segmentParam?_braces (hname.notMem (by decide)) (pieces.flatMap Piece.write)
      simpa [Piece.write, Style.write, Piece.name?] using hfound

end

/-! ## Names of a path -/

/-- The names of a path are the first ones of its segments. -/
theorem params_mixedPath {segments : List (List Piece)}
    (h : ∀ pieces ∈ segments, ∀ p ∈ pieces, p.Regular) :
    params (normalize (mixedPath segments)) =
      (segments.filterMap fun pieces ↦ (namesIn pieces).head?).map String.ofList := by
  have hnormal : normalizeFrom (.text true) (joinWith ['/'] (segments.map writeSegment)) =
      joinWith ['/'] (segments.map writeSegment) :=
    normalizeFrom_joinWith fun pieces hpieces ↦ normalizes_writeSegment (h pieces hpieces)
  have hslash : ∀ piece ∈ segments.map writeSegment, '/' ∉ piece := by
    simpa using fun pieces hpieces ↦ notMem_slash_writeSegment (h pieces hpieces)
  have hnames : (segments.map writeSegment).filterMap segmentParam? =
      segments.filterMap fun pieces ↦ (namesIn pieces).head? := by
    rw [List.filterMap_map]
    apply List.filterMap_congr
    intro pieces hpieces
    exact segmentParam?_writeSegment (h pieces hpieces)
  rw [← hnames, normalize, mixedPath, String.toList_ofList]
  rcases normalizeChars_eq (joinWith ['/'] (segments.map writeSegment)) with hadded | hkept
  · rw [hadded, hnormal]
    exact (params_joinWith hslash).2
  · rw [hkept, hnormal]
    exact (params_joinWith hslash).1

/-- First elements are all elements exactly if there is never a second one. -/
theorem filterMap_head?_eq_flatMap_iff {α β : Type} (f : α → List β) (l : List α) :
    (l.filterMap fun a ↦ (f a).head?) = l.flatMap f ↔ ∀ a ∈ l, (f a).length ≤ 1 := by
  have hfirst (l : List α) :
      (l.filterMap fun a ↦ (f a).head?) = l.flatMap fun a ↦ (f a).take 1 := by
    induction l with
    | nil => rfl
    | cons a l ih =>
      rw [List.filterMap_cons, List.flatMap_cons, ih]
      cases f a <;> rfl
  have hshort (l : List α) : (l.flatMap fun a ↦ (f a).take 1).length ≤ (l.flatMap f).length := by
    induction l with
    | nil => exact le_rfl
    | cons a l ih =>
      rw [List.flatMap_cons, List.flatMap_cons, List.length_append, List.length_append]
      exact Nat.add_le_add (List.take_sublist 1 (f a)).length_le ih
  rw [hfirst]
  constructor
  · intro heq
    induction l with
    | nil => exact List.forall_mem_nil _
    | cons a l ih =>
      rw [List.flatMap_cons, List.flatMap_cons] at heq
      have hlength := congrArg List.length heq
      rw [List.length_append, List.length_append, List.length_take] at hlength
      have hrest := hshort l
      have ha : (f a).length ≤ 1 := by omega
      rw [List.take_of_length_le ha] at heq
      exact List.forall_mem_cons.2 ⟨ha, ih (List.append_cancel_left heq)⟩
  · intro h
    apply List.flatMap_congr
    intro a ha
    exact List.take_of_length_le (h a ha)

theorem params_mixedPath_eq_allNames_iff {segments : List (List Piece)}
    (h : ∀ pieces ∈ segments, ∀ p ∈ pieces, p.Regular) :
    params (normalize (mixedPath segments)) = allNames segments ↔ OnePerSegment segments := by
  have hinjective : Function.Injective (List.map String.ofList) :=
    List.map_injective_iff.2 fun _ _ ↦ String.ofList_injective
  rw [params_mixedPath h, allNames, hinjective.eq_iff]
  exact filterMap_head?_eq_flatMap_iff namesIn segments

end ApiAtlas.Template

namespace ApiAtlas.Builder

open Template

/-! ## Path parameters of an operation -/

/-- The names of the path parameters of an operation, each with whether it is required. -/
def pathParameters (o : Document.Operation) : List (String × Bool) :=
  (o.parameters.filter fun p ↦ p.location == Location.path.name).map fun p ↦ (p.name, p.required)

theorem location_of_mem_parameterFields {implied : Bool} {placeholders : List String}
    {fields : List Field} {entry : Field × Location}
    (h : entry ∈ parameterFields implied placeholders fields) :
    entry.2 = .query ∨ entry.2 = .header := by
  have hholds : Holds (parameterFields implied placeholders fields) (paramName entry.1) entry.2 :=
    ⟨entry, h, rfl, rfl⟩
  rw [holds_parameterFields_iff] at hholds
  obtain ⟨_, f, _, _, hlocation⟩ := hholds
  exact (parameterLocation?_cases hlocation).1

/-- An operation has a required path parameter for each name of its template, and no others. -/
theorem pathParameters_made (env : Env) (b : Builder) (route : Route) (h : Handler) :
    pathParameters (made env b route h).value =
      (params route.path).map fun name ↦ (name, true) := by
  have hpath : ((params route.path).map fun name ↦
      (pathParameter env (requestFields env.catalog h.request) name).value).filter
        (fun p ↦ p.location == Location.path.name) =
      (params route.path).map fun name ↦
        (pathParameter env (requestFields env.catalog h.request) name).value := by
    rw [List.filter_eq_self, List.forall_mem_map]
    intro name _
    rw [location_pathParameter]
    exact beq_self_eq_true _
  have hother : ((parameterFields (impliesQuery b.parameterStyle (effectiveMethod route h))
      (params route.path) (requestFields env.catalog h.request)).map
        fun entry ↦ (fieldParameter env entry.1 entry.2).value).filter
        (fun p ↦ p.location == Location.path.name) = [] := by
    rw [List.filter_eq_nil_iff, List.forall_mem_map]
    intro entry hentry
    have hlocation : (fieldParameter env entry.1 entry.2).value.location = entry.2.name := rfl
    rw [hlocation]
    rcases location_of_mem_parameterFields hentry with hquery | hheader
    · rw [hquery]
      decide
    · rw [hheader]
      decide
  rw [pathParameters, parameters_made, value_parameters, List.filter_append, hpath, hother,
    List.append_nil, List.map_map]
  apply List.map_congr_left
  intro name _
  unfold pathParameter
  simp only [Function.comp_apply]
  split <;> rfl

/-- The names of a path whose segments mix text and placeholders are the first names of the
segments, and so are the path parameters of the operation of a route with that path. They are the
names of all placeholders exactly if no segment has two of them. -/
theorem path_parameters_complete_iff (segments : List (List Piece))
    (h : ∀ pieces ∈ segments, ∀ p ∈ pieces, p.Regular) :
    params (normalize (mixedPath segments)) =
        (segments.filterMap fun pieces ↦ (namesIn pieces).head?).map String.ofList ∧
      (params (normalize (mixedPath segments)) = allNames segments ↔ OnePerSegment segments) ∧
      ∀ (env : Env) (b : Builder) (s : Session) (route : Route) (handler : Handler),
        env.catalog.handler? route.handler = some handler →
        route.path = normalize (mixedPath segments) →
        ∃ o, (addRoute env b s route).2.1.operationAt? route.path (effectiveMethod route handler) =
            some o ∧
          pathParameters o =
            (params (normalize (mixedPath segments))).map (fun name ↦ (name, true)) ∧
          (pathParameters o = (allNames segments).map (fun name ↦ (name, true)) ↔
            OnePerSegment segments) := by
  refine ⟨params_mixedPath h, params_mixedPath_eq_allNames_iff h, ?_⟩
  intro env b s route handler hhandler hpath
  have hinjective : Function.Injective (List.map fun name : String ↦ (name, true)) :=
    List.map_injective_iff.2 fun _ _ heq ↦ (Prod.mk.inj heq).1
  have hparameters := pathParameters_made env b route handler
  rw [hpath] at hparameters
  refine ⟨_, operationAt?_addRoute b s hhandler, hparameters, ?_⟩
  rw [hparameters, hinjective.eq_iff]
  exact params_mixedPath_eq_allNames_iff h

/-- The segments of `/orgs/{org}-team/{user_id}`. -/
def teamSegments : List (List Piece) :=
  [[], [.text "orgs".toList], [.placeholder "org".toList, .text "-team".toList],
    [.placeholder "user_id".toList]]

/-- The segments of `/files/{name}.{ext}`. -/
def fileSegments : List (List Piece) :=
  [[], [.text "files".toList],
    [.placeholder "name".toList, .text ".".toList, .placeholder "ext".toList]]

/-- A route with the path of some segments. -/
def mixedRoute (segments : List (List Piece)) : Route where
  method := some .get
  path := normalize (mixedPath segments)
  handler := "account"

theorem path_parameters_of_team :
    (∀ pieces ∈ teamSegments, ∀ p ∈ pieces, p.Regular) ∧ OnePerSegment teamSegments ∧
      params (normalize (mixedPath teamSegments)) = ["org", "user_id"] ∧
      accounts.handler? (mixedRoute teamSegments).handler = some accountHandler ∧
      ∃ o, (addRoute ⟨accounts, {}⟩ (Builder.new {}) {} (mixedRoute teamSegments)).2.1.operationAt?
          (mixedRoute teamSegments).path .get = some o ∧
        pathParameters o = [("org", true), ("user_id", true)] := by
  have hregular : ∀ pieces ∈ teamSegments, ∀ p ∈ pieces, p.Regular := by decide
  have hone : OnePerSegment teamSegments := by decide
  have hnames : allNames teamSegments = ["org", "user_id"] := by decide
  obtain ⟨_, hcomplete, hroutes⟩ := path_parameters_complete_iff teamSegments hregular
  obtain ⟨o, ho, _, hdocumented⟩ := hroutes ⟨accounts, {}⟩ (Builder.new {}) {}
    (mixedRoute teamSegments) accountHandler rfl rfl
  refine ⟨hregular, hone, (hcomplete.2 hone).trans hnames, rfl, o, ho, ?_⟩
  rw [hdocumented.2 hone, hnames]
  rfl

/-- Of two placeholders in one segment the second is in the template and has no parameter. -/
theorem second_placeholder_undocumented :
    (∀ pieces ∈ fileSegments, ∀ p ∈ pieces, p.Regular) ∧
      normalize (mixedPath fileSegments) = "/files/\x7bname\x7d.\x7bext\x7d" ∧
      allNames fileSegments = ["name", "ext"] ∧
      params (normalize (mixedPath fileSegments)) = ["name"] ∧
      ∃ o, (addRoute ⟨accounts, {}⟩ (Builder.new {}) {} (mixedRoute fileSegments)).2.1.operationAt?
          (mixedRoute fileSegments).path .get = some o ∧
        pathParameters o = [("name", true)] := by
  have hparams : params (normalize (mixedPath fileSegments)) = ["name"] := by decide
  have hhandler : (⟨accounts, {}⟩ : Env).catalog.handler? (mixedRoute fileSegments).handler =
      some accountHandler := rfl
  refine ⟨by decide, by decide, by decide, hparams, _,
    operationAt?_addRoute (Builder.new {}) {} hhandler, ?_⟩
  rw [pathParameters_made]
  exact congrArg (List.map fun name ↦ (name, true)) hparams

end ApiAtlas.Builder
