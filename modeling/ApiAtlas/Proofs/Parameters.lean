import ApiAtlas.Proofs.PathParameters
import Mathlib.Data.List.Nodup

/-!
# Parameters of an operation

The parameters of an operation are those of the placeholders in their order, and then those of the
query and the header. A parameter is identified by its name and location. The fields of a request
come from several records and may share both, with an annotation or without one, so the fields that
become parameters are taken up one by one, and only if nothing with the same name and location is
there yet. Which names and locations there are does not depend on which field came first, and so the
two parameter styles can be compared: without the implied query parameters there are fewer, and
nothing else changes.
-/

namespace ApiAtlas

open Document (Parameter)

theorem Location.name_injective : Function.Injective Location.name := by
  intro location other h
  cases location <;> cases other <;> first | rfl | simp [Location.name] at h

/-- What identifies a parameter: its name and location. -/
def Document.Parameter.key (p : Parameter) : String × String :=
  (p.name, p.location)

namespace Builder

variable {env : Env} {placeholders : List String}

/-! ## Fields taken up once -/

/-- The name and location of the parameter that a field becomes. -/
def entryKey (entry : Field × Location) : String × Location :=
  (paramName entry.1, entry.2)

theorem nodup_keep {found : List (Field × Location)} (h : (found.map entryKey).Nodup)
    (entry : Field × Location) : ((keep placeholders found entry).map entryKey).Nodup := by
  unfold keep
  split
  · exact h
  · next hnew =>
    rw [Bool.or_eq_true, not_or] at hnew
    have hfree : entryKey entry ∉ found.map entryKey := by
      intro hmem
      apply hnew.2
      obtain ⟨other, hother, hsame⟩ := List.mem_map.1 hmem
      obtain ⟨hname, hlocation⟩ := Prod.mk.inj hsame
      exact List.any_eq_true.2 ⟨other, hother, by simp [hname, hlocation]⟩
    rw [List.map_append, List.map_singleton]
    exact List.Nodup.append h (List.nodup_singleton _) (List.disjoint_singleton.2 hfree)

/-- No two fields become parameters of the same name and location. -/
theorem nodup_parameterFields (implied : Bool) (placeholders : List String)
    (fields : List Field) :
    ((parameterFields implied placeholders fields).map entryKey).Nodup := by
  rw [parameterFields_eq_foldl]
  exact List.foldlRecOn (motive := fun found : List (Field × Location) ↦
    (found.map entryKey).Nodup) _ _ List.nodup_nil fun _ hfound entry _ ↦ nodup_keep hfound entry

theorem name_notMem_of_mem_parameterFields {implied : Bool} {fields : List Field}
    {entry : Field × Location} (h : entry ∈ parameterFields implied placeholders fields) :
    paramName entry.1 ∉ placeholders := by
  have hholds : Holds (parameterFields implied placeholders fields) (paramName entry.1) entry.2 :=
    ⟨entry, h, rfl, rfl⟩
  exact ((holds_parameterFields_iff _ _ _ _ _).1 hholds).1

/-! ## Keys -/

theorem key_pathParameter (env : Env) (fields : List Field) (name : String) :
    (pathParameter env fields name).value.key = (name, Location.path.name) := by
  unfold pathParameter
  split <;> rfl

theorem required_pathParameter (env : Env) (fields : List Field) (name : String) :
    (pathParameter env fields name).value.required = true := by
  unfold pathParameter
  split <;> rfl

/-- The names and locations of the parameters of an operation. -/
theorem map_key_parameters (env : Env) (style : ParameterStyle) (method : Method) (path : String)
    (fields : List Field) :
    (parameters env style method path fields).value.map Parameter.key =
      ((Template.params path).map fun name ↦ (name, Location.path.name)) ++
        ((parameterFields (impliesQuery style method) (Template.params path) fields).map
          entryKey).map (Prod.map id Location.name) := by
  rw [value_parameters, List.map_append, List.map_map, List.map_map, List.map_map]
  congr 1
  apply List.map_congr_left
  intro name _
  exact key_pathParameter env fields name

theorem nodup_map_key {entries : List (Field × Location)} (h : (entries.map entryKey).Nodup) :
    ((entries.map entryKey).map (Prod.map id Location.name)).Nodup :=
  h.map (Function.injective_id.prodMap Location.name_injective)

/-- Parameters of the path differ from the others by their location. -/
theorem pathKey_notMem (implied : Bool) (placeholders : List String) (fields : List Field)
    (name : String) :
    (name, Location.path.name) ∉
      ((parameterFields implied placeholders fields).map entryKey).map
        (Prod.map id Location.name) := by
  intro hmem
  rw [List.map_map] at hmem
  obtain ⟨entry, hentry, heq⟩ := List.mem_map.1 hmem
  have hplace : entry.2 = .path := Location.name_injective (Prod.mk.inj heq).2
  rcases location_of_mem_parameterFields hentry with hquery | hheader
  · simp [hplace] at hquery
  · simp [hplace] at hheader

theorem nodup_map_key_parameters (env : Env) (style : ParameterStyle) (method : Method)
    {path : String} (fields : List Field) (h : (Template.params path).Nodup) :
    ((parameters env style method path fields).value.map Parameter.key).Nodup := by
  rw [map_key_parameters]
  apply List.Nodup.append
  · exact h.map fun _ _ heq ↦ (Prod.mk.inj heq).1
  · exact nodup_map_key (nodup_parameterFields _ _ _)
  · apply List.disjoint_left.2
    intro key hpath
    obtain ⟨name, _, rfl⟩ := List.mem_map.1 hpath
    exact pathKey_notMem _ _ _ name

/-- A field that is a parameter without being implied is the same parameter if fields are implied. -/
theorem parameterLocation?_of_explicit {f : Field} {location : Location}
    (h : parameterLocation? false f = some location) (implied : Bool) :
    parameterLocation? implied f = some location := by
  unfold parameterLocation? at h ⊢
  split at h
  · exact h
  · exact h
  · simp at h
  · simp at h

theorem entryKeys_subset (implied : Bool) (placeholders : List String) (fields : List Field) :
    (parameterFields false placeholders fields).map entryKey ⊆
      (parameterFields implied placeholders fields).map entryKey := by
  intro key hkey
  obtain ⟨entry, hentry, rfl⟩ := List.mem_map.1 hkey
  have hholds : Holds (parameterFields false placeholders fields) (paramName entry.1) entry.2 :=
    ⟨entry, hentry, rfl, rfl⟩
  rw [holds_parameterFields_iff] at hholds
  obtain ⟨hfree, f, hf, hname, hlocation⟩ := hholds
  have hother : Holds (parameterFields implied placeholders fields) (paramName entry.1) entry.2 :=
    (holds_parameterFields_iff _ _ _ _ _).2
      ⟨hfree, f, hf, hname, parameterLocation?_of_explicit hlocation implied⟩
  obtain ⟨other, hmem, hsame, hplace⟩ := hother
  exact List.mem_map.2 ⟨other, hmem, Prod.ext hsame hplace⟩

theorem impliesQuery_explicit (method : Method) : impliesQuery .explicit method = false := rfl

theorem impliesQuery_of_ne {method : Method} (hget : method ≠ .get) (hdelete : method ≠ .delete)
    (style : ParameterStyle) : impliesQuery style method = false := by
  simp [impliesQuery, hget, hdelete]

/-! ## The list of parameters -/

/-- The parameters of an operation, for any method, path and request fields. First comes a required
path parameter for each placeholder in order, then only query and header parameters, none with the
name of a placeholder and no two with the same name and location; so all names and locations are
distinct if the placeholders are. The explicit style has no name and location that the implicit
style does not have, and for methods other than GET and DELETE the two give the same parameters. -/
theorem parameters_ordered_and_distinct (env : Env) (method : Method) (path : String)
    (fields : List Field) :
    (∀ style, ∃ first others,
      (parameters env style method path fields).value = first ++ others ∧
      first.map (fun p ↦ (p.key, p.required)) =
        (Template.params path).map (fun name ↦ ((name, Location.path.name), true)) ∧
      (∀ p ∈ others,
        (p.location = Location.query.name ∨ p.location = Location.header.name) ∧
          p.name ∉ Template.params path) ∧
      (others.map Parameter.key).Nodup ∧
      ((Template.params path).Nodup →
        ((parameters env style method path fields).value.map Parameter.key).Nodup)) ∧
    (parameters env .explicit method path fields).value.map Parameter.key ⊆
      (parameters env .implicit method path fields).value.map Parameter.key ∧
    (method ≠ .get → method ≠ .delete →
      (parameters env .implicit method path fields).value =
        (parameters env .explicit method path fields).value) := by
  refine ⟨fun style ↦ ⟨_, _, value_parameters env style method path fields, ?_, ?_, ?_, ?_⟩, ?_, ?_⟩
  · rw [List.map_map]
    apply List.map_congr_left
    intro name _
    simp only [Function.comp_apply, key_pathParameter, required_pathParameter]
  · intro p hp
    obtain ⟨entry, hentry, rfl⟩ := List.mem_map.1 hp
    refine ⟨?_, name_notMem_of_mem_parameterFields hentry⟩
    exact (location_of_mem_parameterFields hentry).imp (congrArg Location.name)
      (congrArg Location.name)
  · have hkeys := nodup_map_key
      (nodup_parameterFields (impliesQuery style method) (Template.params path) fields)
    rw [List.map_map] at hkeys ⊢
    exact hkeys
  · exact nodup_map_key_parameters env style method fields
  · rw [map_key_parameters, map_key_parameters, impliesQuery_explicit]
    exact List.append_subset.2 ⟨List.subset_append_left _ _,
      List.subset_append_of_subset_right _ (List.map_subset _ (entryKeys_subset _ _ _))⟩
  · intro hget hdelete
    rw [value_parameters, value_parameters, impliesQuery_of_ne hget hdelete,
      impliesQuery_of_ne hget hdelete]

/-- A field with an annotation and one without compete for the same query parameter; the header has a
parameter of that name besides. -/
example :
    (parameterFields true ["id"]
      [.plain "id" (.named "u64"), .plain "q" (.named "String"),
       { Field.plain "q" (.named "u8") with annotatedLocation := some .query },
       { Field.plain "q" (.named "u8") with annotatedLocation := some .header }]).map entryKey =
      [("q", .query), ("q", .header)] := by
  decide

end Builder

end ApiAtlas
