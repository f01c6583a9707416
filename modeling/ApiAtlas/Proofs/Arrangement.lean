import ApiAtlas.Document.Codec
import ApiAtlas.Proofs.Keyed

/-!
# Arrangements of JSON values

An object is the same value in whatever order its members stand, so what is said about reading a
value should hold for every order. An arrangement fixes one: it permutes the members of each object
that has different keys. Looking up a member does not depend on the arrangement, and neither does
reading a list or a table; a part that is written and read back inside an arranged object is found
there unchanged.
-/

namespace ApiAtlas

namespace Keyed

variable {α : Type}

theorem get?_append (key : String) (entries others : List (String × α)) :
    get? key (entries ++ others) = (get? key entries).or (get? key others) :=
  List.lookup_append

theorem get?_map (key : String) {β : Type} (f : α → β) (entries : List (String × α)) :
    get? key (entries.map fun entry ↦ (entry.1, f entry.2)) = (get? key entries).map f := by
  induction entries with
  | nil => rfl
  | cons entry rest ih =>
    rw [List.map_cons, get?_cons, get?_cons, ih]
    by_cases h : key = entry.1 <;> simp [h]

theorem keys_append (entries others : List (String × α)) :
    keys (entries ++ others) = keys entries ++ keys others :=
  List.map_append

theorem keys_map {β : Type} (f : α → β) (entries : List (String × α)) :
    keys (entries.map fun entry ↦ (entry.1, f entry.2)) = keys entries := by
  simp [keys, Function.comp_def]

theorem insert_perm {key : String} {table : List (String × α)} (value : α)
    (h : key ∉ keys table) : (insert key value table).Perm ((key, value) :: table) := by
  unfold keys at h
  induction table with
  | nil => exact List.Perm.refl _
  | cons entry rest ih =>
    rw [List.map_cons, List.mem_cons, not_or] at h
    rw [insert]
    split
    · exact List.Perm.refl _
    · rw [if_neg (by simp [h.1])]
      exact ((ih h.2).cons entry).trans (List.Perm.swap _ _ _)

/-- The table of a list with different keys has the entries of the list. -/
theorem ofList_perm {entries : List (String × α)} (h : (keys entries).Nodup) :
    (ofList entries).Perm entries := by
  induction entries using List.reverseRecOn with
  | nil => exact List.Perm.refl _
  | append_singleton entries entry ih =>
    have hcons : (keys (entry :: entries)).Nodup :=
      (nodup_keys_iff_of_perm (List.perm_append_singleton entry entries)).1 h
    obtain ⟨hnew, hrest⟩ := List.nodup_cons.1 hcons
    rw [ofList_concat]
    calc
      (insert entry.1 entry.2 (ofList entries)).Perm (entry :: ofList entries) :=
        insert_perm entry.2 (by rwa [mem_keys_ofList])
      _ |>.Perm (entry :: entries) := (ih hrest).cons entry
      _ |>.Perm (entries ++ [entry]) := (List.perm_append_singleton entry entries).symm

end Keyed

namespace Json

/-- An order for the members of objects. -/
structure Arrangement where
  order : List (String × Json) → List (String × Json)
  perm : ∀ members, (Keyed.keys members).Nodup → (order members).Perm members

namespace Arrangement

/-- Members stand as they are written. -/
def asWritten : Arrangement :=
  ⟨id, fun members _ ↦ List.Perm.refl members⟩

/-- Members stand by their keys. -/
def byKey : Arrangement :=
  ⟨Keyed.ofList, fun _ h ↦ Keyed.ofList_perm h⟩

end Arrangement

mutual

/-- A value with the members of all objects in a given order. -/
def arrange (a : Arrangement) : Json → Json
  | .array items => .array (arrangeItems a items)
  | .object members => .object (a.order (arrangeMembers a members))
  | .null => .null
  | .bool value => .bool value
  | .number value => .number value
  | .string value => .string value

/-- The items of an array, arranged. -/
def arrangeItems (a : Arrangement) : List Json → List Json
  | [] => []
  | item :: rest => arrange a item :: arrangeItems a rest

/-- The values of the members of an object, arranged. -/
def arrangeMembers (a : Arrangement) : List (String × Json) → List (String × Json)
  | [] => []
  | (key, value) :: rest => (key, arrange a value) :: arrangeMembers a rest

end

theorem arrangeItems_eq_map (a : Arrangement) (items : List Json) :
    arrangeItems a items = items.map (arrange a) := by
  induction items with
  | nil => rfl
  | cons item rest ih => rw [arrangeItems, ih, List.map_cons]

theorem arrangeMembers_eq_map (a : Arrangement) (members : List (String × Json)) :
    arrangeMembers a members = members.map fun entry ↦ (entry.1, arrange a entry.2) := by
  induction members with
  | nil => rfl
  | cons entry rest ih => rw [arrangeMembers, ih, List.map_cons]

mutual

/-- Members that stand as they are written leave a value as it is. -/
theorem arrange_asWritten : (json : Json) → json.arrange .asWritten = json
  | .array items => by rw [arrange, arrangeItems_asWritten items]
  | .object members => by
    rw [arrange, arrangeMembers_asWritten members]
    rfl
  | .null => by rw [arrange]
  | .bool _ => by rw [arrange]
  | .number _ => by rw [arrange]
  | .string _ => by rw [arrange]

theorem arrangeItems_asWritten : (items : List Json) → arrangeItems .asWritten items = items
  | [] => by rw [arrangeItems]
  | item :: rest => by rw [arrangeItems, arrange_asWritten item, arrangeItems_asWritten rest]

theorem arrangeMembers_asWritten :
    (members : List (String × Json)) → arrangeMembers .asWritten members = members
  | [] => by rw [arrangeMembers]
  | (key, value) :: rest => by
    rw [arrangeMembers, arrange_asWritten value, arrangeMembers_asWritten rest]

end

variable {a : Arrangement}

@[simp]
theorem arrange_string (value : String) : (string value).arrange a = string value := by
  rw [arrange]

@[simp]
theorem arrange_bool (value : Bool) : (bool value).arrange a = bool value := by
  rw [arrange]

@[simp]
theorem arrange_number (value : Number) : (number value).arrange a = number value := by
  rw [arrange]

@[simp]
theorem arrange_array (items : List Json) :
    (array items).arrange a = array (items.map (arrange a)) := by
  rw [arrange, arrangeItems_eq_map]

@[simp]
theorem arrange_ofStrings (values : List String) :
    (ofStrings values).arrange a = ofStrings values := by
  simp [ofStrings]

theorem arrange_object (members : List (String × Json)) :
    (object members).arrange a =
      object (a.order (members.map fun entry ↦ (entry.1, entry.2.arrange a))) := by
  rw [arrange, arrangeMembers_eq_map]

/-- The members of an arranged object are those of the object, arranged. -/
theorem order_perm {members : List (String × Json)} (h : (Keyed.keys members).Nodup) :
    (a.order (members.map fun entry ↦ (entry.1, entry.2.arrange a))).Perm
      (members.map fun entry ↦ (entry.1, entry.2.arrange a)) :=
  a.perm _ (by rwa [Keyed.keys_map])

/-! ## Members -/

/-- Arranging an object changes what stands under a key only by arranging it. -/
theorem get?_arrange {members : List (String × Json)} (h : (Keyed.keys members).Nodup)
    (key : String) :
    ((object members).arrange a).get? key = (Keyed.get? key members).map (arrange a) := by
  have hkeys :
      (Keyed.keys (a.order (members.map fun entry ↦ (entry.1, entry.2.arrange a)))).Nodup :=
    (Keyed.nodup_keys_iff_of_perm (order_perm h)).2 (by rwa [Keyed.keys_map])
  rw [arrange_object]
  calc
    _ = Keyed.get? key (members.map fun entry ↦ (entry.1, entry.2.arrange a)) :=
      Keyed.get?_of_perm (order_perm h) hkeys key
    _ = (Keyed.get? key members).map (arrange a) := Keyed.get?_map key (arrange a) members

@[simp]
theorem withNames?_arrange (names : List String) (needed : Nat) (members : List (String × Json)) :
    ((object members).arrange a).withNames? names needed = some ((object members).arrange a) := by
  rw [arrange_object, withNames?]

@[simp]
theorem get?_optionalMember (key name : String) (value : Option Json) :
    Keyed.get? key (optionalMember name value) = if key = name then value else none := by
  cases value with
  | none => simp [optionalMember]
  | some json => simp [optionalMember, Keyed.get?_cons]

/-- What a list is written as, if it is written at all. -/
def nonEmpty? {α : Type} (write : α → Json) (l : List α) : Option Json :=
  if l.isEmpty then none else some (.array (l.map write))

theorem listMember_eq {α : Type} (key : String) (write : α → Json) (l : List α) :
    listMember key write l = optionalMember key (nonEmpty? write l) := by
  unfold listMember nonEmpty?
  cases l.isEmpty <;> rfl

theorem mem_optionalMember {key : String} {value : Option Json} {entry : String × Json} :
    entry ∈ optionalMember key value ↔ entry.1 = key ∧ value = some entry.2 := by
  cases value with
  | none => simp [optionalMember]
  | some json => simp [optionalMember, Prod.ext_iff, eq_comm]

theorem keys_optionalMember_sublist (key : String) (value : Option Json) :
    (Keyed.keys (optionalMember key value)).Sublist [key] := by
  cases value with
  | none => exact List.nil_sublist _
  | some json => exact List.Sublist.refl _

/-! ## Written members -/

/-- The members of an object that are there, of those that may be. -/
def present (fields : List (String × Option Json)) : List (String × Json) :=
  fields.flatMap fun field ↦ optionalMember field.1 field.2

theorem mem_present {fields : List (String × Option Json)} {entry : String × Json} :
    entry ∈ present fields ↔ (entry.1, some entry.2) ∈ fields := by
  rw [present, List.mem_flatMap]
  constructor
  · rintro ⟨⟨key, value⟩, hfield, hentry⟩
    obtain ⟨hkey, hvalue⟩ := mem_optionalMember.1 hentry
    rw [hkey, ← hvalue]
    exact hfield
  · intro hfield
    exact ⟨_, hfield, mem_optionalMember.2 ⟨rfl, rfl⟩⟩

theorem keys_present_sublist (fields : List (String × Option Json)) :
    (Keyed.keys (present fields)).Sublist (Keyed.keys fields) := by
  induction fields with
  | nil => exact List.Sublist.refl _
  | cons field rest ih =>
    rw [present, List.flatMap_cons, Keyed.keys_append]
    exact (keys_optionalMember_sublist field.1 field.2).append ih

theorem nodup_keys_present {fields : List (String × Option Json)} (h : (Keyed.keys fields).Nodup) :
    (Keyed.keys (present fields)).Nodup :=
  h.sublist (keys_present_sublist fields)

/-- Under the key of a member stands its value, and nothing if it is absent. -/
theorem get?_present {fields : List (String × Option Json)} (h : (Keyed.keys fields).Nodup)
    {key : String} {value : Option Json} (hmem : (key, value) ∈ fields) :
    Keyed.get? key (present fields) = value := by
  induction fields with
  | nil => simp at hmem
  | cons field rest ih =>
    obtain ⟨hfresh, hrest⟩ := List.nodup_cons.1 h
    rw [present, List.flatMap_cons, Keyed.get?_append, get?_optionalMember]
    rcases List.mem_cons.1 hmem with rfl | hlater
    · have habsent : Keyed.get? key (present rest) = none := by
        by_contra hfound
        exact hfresh ((keys_present_sublist rest).subset ((Keyed.mem_keys_iff key _).2 hfound))
      rw [if_pos rfl]
      calc
        _ = value.or none := congrArg value.or habsent
        _ = value := Option.or_none
    · have hne : key ≠ field.1 := fun heq ↦ hfresh (heq ▸ List.mem_map_of_mem hlater)
      rw [if_neg hne, Option.none_or]
      exact ih hrest hlater

/-! ## Reading back -/

section ReadsBack

variable {α : Type} {write : α → Json} {read : Json → Option α}

/-- A value is read from what it is written as, in a given arrangement. -/
def ReadsBack (a : Arrangement) (write : α → Json) (read : Json → Option α) (value : α) : Prop :=
  read ((write value).arrange a) = some value

theorem readsBack_string (value : String) : ReadsBack a string string? value := by
  rw [ReadsBack, arrange_string, string?]

theorem readsBack_bool (value : Bool) : ReadsBack a bool bool? value := by
  rw [ReadsBack, arrange_bool, bool?]

theorem readsBack_number (value : Number) : ReadsBack a number toNumber? value := by
  rw [ReadsBack, arrange_number, toNumber?]

theorem readsBack_ofNat {n : Nat} (h : n < 2 ^ 64) : ReadsBack a ofNat nat? n := by
  have hbits : Decimal.isUnsigned64 (n : Int) = true := by
    simp only [Decimal.isUnsigned64, Bool.and_eq_true, decide_eq_true_eq]
    omega
  rw [ReadsBack, ofNat, arrange_number, nat?, if_pos hbits, Int.toNat_natCast]

theorem readsBack_values {values : List Json} (h : ∀ value ∈ values, value.arrange a = value) :
    ReadsBack a array values? values := by
  rw [ReadsBack, arrange_array, values?, List.map_congr_left h, List.map_id']

theorem mapAll?_map {β : Type} {f : α → β} {g : β → Option α} {l : List α}
    (h : ∀ x ∈ l, g (f x) = some x) : mapAll? g (l.map f) = some l := by
  induction l with
  | nil => rfl
  | cons x rest ih =>
    rw [List.map_cons, mapAll?, h x List.mem_cons_self,
      ih fun y hy ↦ h y (List.mem_cons_of_mem x hy)]

/-- Elements that are read in another order are the same ones in that order. -/
theorem mapAll?_of_perm {β : Type} {g : β → Option α} {l l' : List β} (h : l.Perm l')
    {values' : List α} (hread : mapAll? g l' = some values') :
    ∃ values, mapAll? g l = some values ∧ values.Perm values' := by
  induction h generalizing values' with
  | nil => exact ⟨values', hread, List.Perm.refl _⟩
  | cons b hperm ih =>
    rw [mapAll?] at hread
    split at hread
    · next value rest hvalue hrest =>
      cases hread
      obtain ⟨values, hvalues, hsame⟩ := ih hrest
      exact ⟨value :: values, by rw [mapAll?, hvalue, hvalues], hsame.cons value⟩
    · simp at hread
  | swap b c l =>
    simp only [mapAll?] at hread ⊢
    cases hb : g b <;> cases hc : g c <;> cases hl : mapAll? g l <;> simp_all
    exact hread ▸ List.Perm.swap _ _ _
  | trans _ _ ih ih' =>
    obtain ⟨middle, hmiddle, hsame'⟩ := ih' hread
    obtain ⟨values, hvalues, hsame⟩ := ih hmiddle
    exact ⟨values, hvalues, hsame.trans hsame'⟩

theorem list?_arrange {l : List α} (h : ∀ x ∈ l, ReadsBack a write read x) :
    ((array (l.map write)).arrange a).list? read = some l := by
  rw [arrange_array, list?, List.map_map]
  exact mapAll?_map h

theorem readsBack_ofStrings (values : List String) : ReadsBack a ofStrings strings? values := by
  rw [ReadsBack, arrange_ofStrings, ofStrings, strings?]
  exact mapAll?_map fun _ _ ↦ rfl

/-- The entries of a table are read from the members of its object in any order. -/
theorem mapAll?_order {table : List (String × α)} (hsorted : Keyed.Sorted table)
    (h : ∀ entry ∈ table, ReadsBack a write read entry.2) :
    ∃ entries, entries.Perm table ∧
      mapAll? (fun (entry : String × Json) ↦ (read entry.2).map fun value ↦ (entry.1, value))
        (a.order ((table.map fun entry ↦ (entry.1, write entry.2)).map
          fun entry ↦ (entry.1, entry.2.arrange a))) = some entries := by
  have hkeys : (Keyed.keys (table.map fun entry ↦ (entry.1, write entry.2))).Nodup := by
    rw [Keyed.keys_map]
    exact Keyed.nodup_keys_of_sorted hsorted
  have hread : mapAll? (fun (entry : String × Json) ↦
      (read entry.2).map fun value ↦ (entry.1, value))
      ((table.map fun entry ↦ (entry.1, write entry.2)).map
        fun entry ↦ (entry.1, entry.2.arrange a)) = some table := by
    rw [List.map_map]
    apply mapAll?_map
    intro entry hentry
    have hvalue : read ((write entry.2).arrange a) = some entry.2 := h entry hentry
    simp [hvalue]
  obtain ⟨entries, hentries, hperm⟩ := mapAll?_of_perm (order_perm hkeys) hread
  exact ⟨entries, hperm, hentries⟩

theorem entries?_arrange {table : List (String × α)} (hsorted : Keyed.Sorted table)
    (h : ∀ entry ∈ table, ReadsBack a write read entry.2) :
    ReadsBack a (ofEntries write) (entries? read) table := by
  obtain ⟨entries, hperm, hentries⟩ := mapAll?_order hsorted h
  rw [ReadsBack, ofEntries, arrange_object, entries?]
  calc
    _ = (some entries).map Keyed.ofList := congrArg (Option.map Keyed.ofList) hentries
    _ = some table := by rw [Option.map_some, Keyed.ofList_of_perm hsorted hperm]

theorem nullable?_of_read {json : Json} {value : α} (hnull : read .null = none)
    (h : read json = some value) : json.nullable? read = some (some value) := by
  unfold nullable?
  split
  · rw [hnull] at h
    cases h
  · rw [h, Option.map_some]

/-! ### Members of arranged objects -/

variable {fields : List (String × Option Json)}

theorem get?_arrange_present (hkeys : (Keyed.keys fields).Nodup) {key : String}
    {value : Option Json} (hmem : (key, value) ∈ fields) :
    ((object (present fields)).arrange a).get? key = value.map (arrange a) := by
  rw [get?_arrange (nodup_keys_present hkeys), get?_present hkeys hmem]

theorem member?_arrange (key : String) (hkeys : (Keyed.keys fields).Nodup) {value : α}
    (hmem : (key, some (write value)) ∈ fields) (h : ReadsBack a write read value) :
    ((object (present fields)).arrange a).member? read key = some value := by
  rw [member?, get?_arrange_present hkeys hmem]
  exact h

theorem optional?_arrange (key : String) (hkeys : (Keyed.keys fields).Nodup) {value : Option α}
    (hmem : (key, value.map write) ∈ fields) (hnull : read .null = none)
    (h : ∀ x ∈ value, ReadsBack a write read x) :
    ((object (present fields)).arrange a).optional? read key = some value := by
  rw [optional?, get?_arrange_present hkeys hmem]
  cases value with
  | none => rfl
  | some x => exact nullable?_of_read hnull (h x rfl)

theorem optional?_string_arrange (key : String) (hkeys : (Keyed.keys fields).Nodup)
    (value : Option String) (hmem : (key, value.map string) ∈ fields) :
    ((object (present fields)).arrange a).optional? string? key = some value :=
  optional?_arrange key hkeys hmem rfl fun x _ ↦ readsBack_string x

theorem listOf?_arrange (key : String) (hkeys : (Keyed.keys fields).Nodup) {l : List α}
    (hmem : (key, nonEmpty? write l) ∈ fields) (h : ∀ x ∈ l, ReadsBack a write read x) :
    ((object (present fields)).arrange a).listOf? read key = some l := by
  rw [listOf?, get?_arrange_present hkeys hmem]
  cases l with
  | nil => rfl
  | cons x rest => exact list?_arrange h

end ReadsBack

end Json

end ApiAtlas
