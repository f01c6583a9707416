import ApiAtlas.Proofs.Assembly
import ApiAtlas.Proofs.Contents
import ApiAtlas.Proofs.Placement
import ApiAtlas.Proofs.RequestBody

/-!
# Request bodies that are a choice

A record whose fields are all optional and off the wire stands for a choice, and its component is a
choice between the types of its fields. A request body shows this as long as it is a reference to
the component. A record may embed others, though, and a placeholder may be bound to a field of
those. The body is then written out as an object of the remaining fields, with no alternatives. Nor
is there a choice behind a name that has a schema of its own. In all other cases the alternatives
are those of the fields, in order.
-/

namespace ApiAtlas

/-! ## Behind a reference -/

namespace Document

/-- The schema that a schema of a document stands for: that of the component, for a reference. -/
def target? (doc : Document) (s : Schema) : Option Schema :=
  match s.ref with
  | none => some s
  | some ref =>
    (doc.componentTable.find? fun entry ↦ Schema.componentRef entry.1 == ref).map Prod.snd

/-- A schema of a document stands for a choice between some schemas. -/
def Offers (doc : Document) (s : Schema) (alternatives : List Schema) : Prop :=
  ∃ shown, doc.target? s = some shown ∧ shown.oneOf = some alternatives

/-- The request body of an operation is a choice between some schemas. -/
def Operation.BodyOffers (doc : Document) (o : Operation) (alternatives : List Schema) : Prop :=
  ∃ body ∈ o.requestBody, ∃ s ∈ contentSchemas body.content, doc.Offers s alternatives

theorem not_offers (doc : Document) {s : Schema} (href : s.ref = none) (hone : s.oneOf = none)
    (alternatives : List Schema) : ¬ doc.Offers s alternatives := by
  rintro ⟨shown, hshown, halternatives⟩
  simp only [target?, href, Option.some.injEq] at hshown
  simp [← hshown, hone] at halternatives

theorem target?_reference (doc : Document) (name : String) :
    doc.target? (Schema.reference name) = Keyed.get? name doc.componentTable := by
  simp only [target?, Schema.reference]
  induction doc.componentTable with
  | nil => rfl
  | cons entry rest ih =>
    rw [Keyed.get?_cons, List.find?_cons]
    by_cases hname : name = entry.1
    · simp [hname]
    · have hother : (Schema.componentRef entry.1 == Schema.componentRef name) = false :=
        beq_false_of_ne fun heq ↦ hname (Schema.componentRef_inj.1 heq).symm
      rw [hother, if_neg hname, ih]

end Document

/-! ## The schema of a body -/

theorem TypeExpr.isUnit_eq_false {t : TypeExpr} {name : String} (hname : t.name? = some name)
    (hown : isBuiltIn name = false) : t.isUnit = false := by
  cases t with
  | named own =>
    obtain rfl : own = name := by simpa [name?, unwrapped] using hname
    exact (Bool.or_eq_false_iff.1 hown).1
  | _ => rfl

namespace Env

variable {env : Env}

/-- The alternatives of a record that stands for a choice: the types of its fields, in order. -/
def alternatives (env : Env) (d : Definition) : List Schema :=
  d.fields.map fun f ↦ (env.schemaOf f.type.payload.1).value

theorem oneOf_component {d : Definition} (hrecord : d.isRecord = true)
    (hchoice : d.holdsAlternatives = true) :
    (env.component d).value.oneOf = some (env.alternatives d) := by
  have hkind : d.kind = .record := beq_iff_eq.1 hrecord
  simp [component, hkind, hchoice, choiceSchema, alternatives, Function.comp_def]

/-- A name that is built in is neither looked up in the catalog nor a choice. -/
theorem schemaOf_of_isBuiltIn (env : Env) {t : TypeExpr} {name : String}
    (hname : t.name? = some name) (hbuiltIn : TypeExpr.isBuiltIn name = true) :
    (env.schemaOf t).value.ref = none ∧ (env.schemaOf t).value.oneOf = none := by
  rw [schemaOf_of_name? hname, schemaOf]
  split
  · exact ⟨rfl, rfl⟩
  · next hunit =>
    have hprimitive : (Primitive.ofName? name).isSome = true := by
      simpa [TypeExpr.isBuiltIn, hunit] using hbuiltIn
    obtain ⟨p, hp⟩ := Option.isSome_iff_exists.1 hprimitive
    simp [nameSchema, hp, primitiveSchema]

end Env

namespace Builder

variable {env : Env}

theorem claimedNames_eq_nil_iff (path : String) (fields : List Field) :
    claimedNames path fields = [] ↔
      ∀ p ∈ Template.params path, ∀ f, boundField? fields p = some f → f.location = .body →
        f.isWire = false := by
  constructor
  · intro hnone p hp f hf hbody
    by_contra hwire
    have hclaimed := mem_claimedNames hp hf hbody (by simpa using hwire)
    simp [hnone] at hclaimed
  · intro hfree
    rw [List.eq_nil_iff_forall_not_mem]
    intro name hname
    unfold claimedNames at hname
    rw [Keyed.mem_sortNames] at hname
    obtain ⟨f, hf, _⟩ := List.mem_map.1 hname
    obtain ⟨hbound, hkept⟩ := List.mem_filter.1 hf
    obtain ⟨p, hp, hp'⟩ := List.mem_filterMap.1 hbound
    have hboth := Bool.and_eq_true_iff.1 hkept
    simp [hfree p hp f hp' (beq_iff_eq.1 hboth.1)] at hboth

/-- The request body of an operation offers what its schema offers. -/
theorem bodyOffers_made_iff (env : Env) (b : Builder) {route : Route} {h : Handler}
    (hmethod : (effectiveMethod route h).hasBody = true) (doc : Document)
    (alternatives : List Schema) :
    (made env b route h).value.BodyOffers doc alternatives ↔
      h.request.isUnit = false ∧
        doc.Offers (env.requestBody h.request
          (claimedNames route.path (requestFields env.catalog h.request))).value alternatives := by
  unfold Document.Operation.BodyOffers
  rw [requestBody_made, requestBody, hmethod]
  cases h.request.isUnit with
  | false => simp [Document.contentSchemas, jsonContent]
  | true => simp

/-- With a claimed name the body is an object and no choice. -/
theorem not_bodyOffers_of_claimed (env : Env) (b : Builder) {route : Route} {h : Handler}
    (hmethod : (effectiveMethod route h).hasBody = true) {name : String} {d : Definition}
    (hname : h.request.name? = some name) (hd : env.catalog.record? name = some d)
    (hclaimed : claimedNames route.path (requestFields env.catalog h.request) ≠ [])
    (doc : Document) (alternatives : List Schema) :
    ¬ (made env b route h).value.BodyOffers doc alternatives := by
  rw [bodyOffers_made_iff env b hmethod, Env.requestBody_of_claimed hname hd hclaimed]
  exact fun hoffers ↦ doc.not_offers rfl rfl alternatives hoffers.2

theorem not_bodyOffers_of_isBuiltIn (env : Env) (b : Builder) {route : Route} {h : Handler}
    (hmethod : (effectiveMethod route h).hasBody = true) {name : String}
    (hname : h.request.name? = some name)
    (hclaimed : claimedNames route.path (requestFields env.catalog h.request) = [])
    (hbuiltIn : TypeExpr.isBuiltIn name = true) (doc : Document) (alternatives : List Schema) :
    ¬ (made env b route h).value.BodyOffers doc alternatives := by
  rw [bodyOffers_made_iff env b hmethod, hclaimed, Env.requestBody_nil]
  obtain ⟨href, hone⟩ := env.schemaOf_of_isBuiltIn hname hbuiltIn
  exact fun hoffers ↦ doc.not_offers href hone alternatives hoffers.2

end Builder

/-! ## The finished document -/

namespace Assembly

open Builder

variable {env : Env}

/-- A component of the finished document is that of its definition. -/
theorem target?_document {a : Assembly} (hs : Session.Settled env a.session) {name : String}
    {d : Definition} (hd : env.catalog.type? name = some d) (hslot : a.session.slot? name ≠ none) :
    a.document.target? (Schema.reference name) = some (env.component d).value := by
  rw [Document.target?_reference, document, componentTable_build]
  have hkey := (hs.mem_keys_schemas_iff name).2 hslot
  obtain ⟨schema, hschema⟩ := Option.ne_none_iff_exists'.1 ((Keyed.mem_keys_iff name _).1 hkey)
  have hready := (Session.mem_schemas_iff hs.sorted name schema).1 (Keyed.mem_of_get? hschema)
  obtain ⟨e, he, hmade⟩ := hs.ready name _ hready
  obtain rfl := Option.some.inj (hd.symm.trans he)
  rw [hschema, Slot.ready.inj hmade]

/-- The reference to a record that stands for a choice offers the alternatives of the record. -/
theorem offers_reference_iff {a : Assembly} (hs : Session.Settled env a.session) {name : String}
    {d : Definition} (hd : env.catalog.type? name = some d) (hrecord : d.isRecord = true)
    (hchoice : d.holdsAlternatives = true) (hslot : a.session.slot? name ≠ none)
    {alternatives : List Schema} :
    a.document.Offers (Schema.reference name) alternatives ↔
      alternatives = env.alternatives d := by
  unfold Document.Offers
  rw [target?_document hs hd hslot]
  simp [Env.oneOf_component hrecord hchoice, eq_comm]

/-- A component that the body of an operation refers to has a slot. -/
theorem slot?_of_requestBody {a : Assembly} (h : Sound env a) {path : String} {method : Method}
    {o : Document.Operation} (ho : a.builder.operationAt? path method = some o)
    {description : Option String} {required : Bool} {name : String}
    (hbody : o.requestBody = some ⟨description, required, jsonContent (Schema.reference name)⟩) :
    a.session.slot? name ≠ none := by
  obtain ⟨item, hitem, hat⟩ := Option.bind_eq_some_iff.1 ho
  have hmem : o ∈ a.builder.operations :=
    List.mem_flatMap.2 ⟨(path, item), Keyed.mem_of_get? hitem,
      (mem_operations_iff item o).2 ⟨method, hat⟩⟩
  have hschema : Schema.reference name ∈ o.schemas := by
    simp [Document.Operation.schemas, hbody, Document.contentSchemas, jsonContent]
  obtain ⟨other, hother, hslot⟩ := h.resolves o hmem _ hschema (Schema.componentRef name)
    (.own rfl)
  exact Schema.componentRef_inj.1 hother ▸ hslot

/-- With no claimed name the body is the reference to the record. The record is then among the
components, and what it offers are its alternatives. -/
theorem bodyOffers_of_unclaimed {a : Assembly} (hsound : Sound env a) {b : Builder} {route : Route}
    {h : Handler}
    (hplaced : a.builder.operationAt? route.path (effectiveMethod route h) =
      some (made env b route h).value)
    (hmethod : (effectiveMethod route h).hasBody = true) {name : String} {d : Definition}
    (hname : h.request.name? = some name) (hd : env.catalog.record? name = some d)
    (hchoice : d.holdsAlternatives = true)
    (hclaimed : claimedNames route.path (requestFields env.catalog h.request) = [])
    (hown : TypeExpr.isBuiltIn name = false) {alternatives : List Schema} :
    (made env b route h).value.BodyOffers a.document alternatives ↔
      alternatives = env.alternatives d := by
  obtain ⟨htype, hrecord⟩ := Catalog.record?_eq_some.1 hd
  have hunit := TypeExpr.isUnit_eq_false hname hown
  have hreference := (Env.schemaOf_known_name hname htype hown).1
  have hbody : (made env b route h).value.requestBody =
      some ⟨some "Request body", true, jsonContent (Schema.reference name)⟩ := by
    rw [requestBody_made, hclaimed, requestBody, hmethod, hunit]
    simp [Env.requestBody_nil, hreference]
  have hslot := slot?_of_requestBody hsound hplaced hbody
  rw [bodyOffers_made_iff env b hmethod, hclaimed, Env.requestBody_nil, hreference,
    offers_reference_iff hsound.settled htype hrecord hchoice hslot]
  simp [hunit]

/-- An action leaves the operations of other endpoints as they are. -/
theorem operationAt?_perform (a : Assembly) {action : Action} {path : String} {method : Method}
    (h : ∀ route, action = .addRoute route → endpoint? env route ≠ some (path, method)) :
    (a.perform env action).builder.operationAt? path method =
      a.builder.operationAt? path method := by
  cases action with
  | call call => rfl
  | addRoute route =>
    have hother := h route rfl
    simp only [perform]
    cases hh : env.catalog.handler? route.handler with
    | none =>
      rw [addRoute_unknown a.builder a.session hh]
      rfl
    | some handler =>
      obtain ⟨notices, hadded⟩ := addRoute_known a.builder a.session hh
      rw [hadded, operationAt?_place, if_neg]
      · unfold Builder.operationAt?
        rw [paths_addSchemes]
      · intro heq
        simp [endpoint?, hh, heq] at hother

theorem operationAt?_foldl (a : Assembly) {later : List Action} {path : String} {method : Method}
    (h : ∀ route, Action.addRoute route ∈ later →
      endpoint? env route ≠ some (path, method)) :
    (later.foldl (perform env) a).builder.operationAt? path method =
      a.builder.operationAt? path method := by
  induction later generalizing a with
  | nil => rfl
  | cons action rest ih =>
    rw [List.foldl_cons, ih _ fun route hroute ↦ h route (List.mem_cons_of_mem _ hroute)]
    exact operationAt?_perform a fun route heq ↦ h route (heq ▸ List.mem_cons_self)

/-- The operation of a route stays in place until another route asks for its endpoint. -/
theorem operationAt?_after (env : Env) (before later : List Action) {route : Route} {h : Handler}
    (hh : env.catalog.handler? route.handler = some h)
    (hlast : ∀ other, Action.addRoute other ∈ later →
      endpoint? env other ≠ some (route.path, effectiveMethod route h)) :
    (after env (before ++ .addRoute route :: later)).builder.operationAt? route.path
        (effectiveMethod route h) =
      some (made env (after env before).builder route h).value := by
  unfold after
  rw [List.foldl_append, List.foldl_cons, operationAt?_foldl _ hlast]
  exact operationAt?_addRoute _ _ hh

/-- A route whose request is a record that stands for a choice, at any place among the actions, as
long as no later route asks for its endpoint. The body of its operation in the finished document is
a choice exactly if the name of the record is not built in and no placeholder is bound to a field of
the body that is on the wire. The alternatives are then those of the fields of the record. -/
theorem body_offers_alternatives_iff (env : Env) (before later : List Action) (route : Route)
    (h : Handler) (name : String) (d : Definition)
    (hh : env.catalog.handler? route.handler = some h)
    (hmethod : (effectiveMethod route h).hasBody = true)
    (hname : h.request.name? = some name) (hd : env.catalog.record? name = some d)
    (hchoice : d.holdsAlternatives = true)
    (hlast : ∀ other, Action.addRoute other ∈ later →
      endpoint? env other ≠ some (route.path, effectiveMethod route h)) :
    let doc := (after env (before ++ .addRoute route :: later)).document
    ∃ o, doc.operationAt? route.path (effectiveMethod route h) = some o ∧
      ∀ alternatives, o.BodyOffers doc alternatives ↔
        (TypeExpr.isBuiltIn name = false ∧
          ∀ p ∈ Template.params route.path, ∀ f,
            boundField? (requestFields env.catalog h.request) p = some f → f.location = .body →
              f.isWire = false) ∧
        alternatives = env.alternatives d := by
  intro doc
  have hplaced := operationAt?_after env before later hh hlast
  refine ⟨_, hplaced, fun alternatives ↦ ?_⟩
  rw [← claimedNames_eq_nil_iff]
  by_cases hclaimed : claimedNames route.path (requestFields env.catalog h.request) = []
  · cases hown : TypeExpr.isBuiltIn name with
    | true =>
      have hplain := not_bodyOffers_of_isBuiltIn env (after env before).builder hmethod hname
        hclaimed hown doc alternatives
      simp [hplain]
    | false =>
      have hsound := sound_after env (before ++ .addRoute route :: later)
      rw [bodyOffers_of_unclaimed hsound hplaced hmethod hname hd hchoice hclaimed hown]
      simp [hclaimed]
  · have hobject := not_bodyOffers_of_claimed env (after env before).builder hmethod hname hd
      hclaimed doc alternatives
    simp [hobject, hclaimed]

/-! ## A choice that embeds one of its alternatives -/

/-- A field off the wire for one of several types. -/
def alternativeField (name type : String) : Field where
  name := name
  type := .optional (.named type)
  wireName := ""

/-- A record that stands for a choice and embeds the last of its alternatives. -/
def checkout : Definition where
  name := "Checkout"
  fields := [alternativeField "card" "Card", alternativeField "bank" "Bank",
    alternativeField "tenant" "Tenant"]
  embedded := [.named "Tenant"]

/-- The embedded record. -/
def tenant : Definition where
  name := "Tenant"
  fields := [.plain "tenant_id" (.named "String"), .plain "region" (.named "String")]

/-- The handler of such requests. -/
def checkoutHandler : Handler where
  name := "checkout"
  request := .named "Checkout"

/-- The types and the handler of a small API. -/
def checkouts : Env where
  catalog :=
    { types := [checkout, tenant, { name := "Card", fields := [.plain "number" (.named "String")] },
        { name := "Bank", fields := [.plain "iban" (.named "String")] }]
      handlers := [checkoutHandler] }
  config := {}

/-- A path with a placeholder for a field of the embedded record. -/
def tenantPath : String :=
  "/tenants/\x7btenant_id\x7d/checkouts"

/-- A route of that API. -/
def checkoutRoute (path : String) : Route where
  method := some .post
  path := path
  handler := "checkout"

theorem requestFields_checkouts :
    requestFields checkouts.catalog checkoutHandler.request = checkout.fields ++ tenant.fields := by
  have htenant : checkouts.catalog.closure Definition.isRecord List.reverse ["Checkout"]
      ["Tenant"] = [tenant] :=
    (Catalog.closure_of_pass (by decide) rfl rfl).trans (congrArg _ (Catalog.closure_nil _))
  have hcheckout : checkouts.catalog.closure Definition.isRecord List.reverse [] ["Checkout"] =
      [checkout, tenant] :=
    (Catalog.closure_of_pass List.not_mem_nil rfl rfl).trans (congrArg _ htenant)
  exact congrArg (fun met ↦ met.flatMap Definition.fields) hcheckout

theorem body_offers_checkout_alternatives :
    checkouts.catalog.record? "Checkout" = some checkout ∧ checkout.holdsAlternatives = true ∧
      let doc := (after checkouts [.addRoute (checkoutRoute "/checkouts"),
        .addRoute (checkoutRoute tenantPath)]).document
      ∃ o, doc.operationAt? "/checkouts" .post = some o ∧
        o.BodyOffers doc [.reference "Card", .reference "Bank", .reference "Tenant"] := by
  refine ⟨rfl, by decide, ?_⟩
  obtain ⟨o, ho, hoffers⟩ := body_offers_alternatives_iff checkouts []
    [.addRoute (checkoutRoute tenantPath)]
    (checkoutRoute "/checkouts") checkoutHandler "Checkout" checkout rfl rfl rfl rfl (by decide)
    (by simp [endpoint?, checkoutRoute, tenantPath])
  refine ⟨o, ho, (hoffers _).2 ⟨⟨by decide, ?_⟩, ?_⟩⟩
  · have hnone : Template.params (checkoutRoute "/checkouts").path = [] := by decide
    simp [hnone]
  · rfl

/-- A placeholder bound to a field of the embedded record takes the choice away: the body is an
object. -/
theorem bound_embedded_field_hides_alternatives :
    checkouts.catalog.record? "Checkout" = some checkout ∧ checkout.holdsAlternatives = true ∧
      let doc := (after checkouts
        [.addRoute (checkoutRoute tenantPath)]).document
      ∃ o, doc.operationAt? tenantPath .post = some o ∧
        ∀ alternatives, ¬ o.BodyOffers doc alternatives := by
  have hbound : boundField? (requestFields checkouts.catalog checkoutHandler.request) "tenant_id" =
      some (.plain "tenant_id" (.named "String")) := by
    rw [requestFields_checkouts]
    rfl
  have hparam : "tenant_id" ∈ Template.params tenantPath := by decide
  have hclaimed := List.ne_nil_of_mem (mem_claimedNames hparam hbound rfl (by decide))
  have hknown : checkouts.catalog.handler? (checkoutRoute tenantPath).handler =
      some checkoutHandler := rfl
  have hplaced := operationAt?_after checkouts [] [] hknown (by simp)
  have hrecord : checkouts.catalog.record? "Checkout" = some checkout := rfl
  have hobject := not_bodyOffers_of_claimed checkouts (after checkouts []).builder
    (rfl : (effectiveMethod (checkoutRoute tenantPath) checkoutHandler).hasBody = true) rfl hrecord
    hclaimed
  exact ⟨hrecord, by decide, _, hplaced, hobject _⟩

end Assembly

end ApiAtlas
