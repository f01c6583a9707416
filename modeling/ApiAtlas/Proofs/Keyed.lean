import ApiAtlas.Keyed
import Mathlib.Data.List.Induction
import Mathlib.Data.String.Basic

/-!
# Laws of tables

Looking up after a change sees the new entry and nothing else, whatever the order of the list. A
table in order has one entry per key, so its entries are exactly what looking up finds, and what
looking up finds determines it. The table of a list has the keys of the list, each with its last
entry; sorting names is making such a table of them.
-/

namespace ApiAtlas.Keyed

variable {α : Type}

/-! ## Looking up -/

@[simp]
theorem get?_nil (key : String) : get? key ([] : List (String × α)) = none := rfl

theorem get?_cons (key k : String) (v : α) (rest : List (String × α)) :
    get? key ((k, v) :: rest) = if key = k then some v else get? key rest := by
  unfold get?
  rw [List.lookup_cons]
  by_cases h : key = k
  · simp [h]
  · rw [if_neg h, beq_false_of_ne h]

@[simp]
theorem get?_insert_self (key : String) (value : α) (table : List (String × α)) :
    get? key (insert key value table) = some value := by
  induction table with
  | nil => simp [insert, get?_cons]
  | cons entry rest ih =>
    obtain ⟨k, v⟩ := entry
    by_cases hlt : key < k
    · simp [insert, hlt, get?_cons]
    · by_cases heq : key = k
      · simp [insert, heq, get?_cons]
      · simp [insert, hlt, heq, get?_cons, ih]

theorem get?_insert_of_ne {key other : String} (value : α) (table : List (String × α))
    (h : other ≠ key) : get? other (insert key value table) = get? other table := by
  induction table with
  | nil => simp [insert, get?_cons, h]
  | cons entry rest ih =>
    obtain ⟨k, v⟩ := entry
    by_cases hlt : key < k
    · simp [insert, hlt, get?_cons, h]
    · by_cases heq : key = k
      · subst heq
        simp [insert, get?_cons, h]
      · simp [insert, hlt, heq, get?_cons, ih]

/-- A change is seen under its own key only. -/
theorem get?_insert (key other : String) (value : α) (table : List (String × α)) :
    get? other (insert key value table) = if other = key then some value else get? other table := by
  by_cases h : other = key
  · rw [if_pos h, h, get?_insert_self]
  · rw [if_neg h, get?_insert_of_ne value table h]

theorem mem_of_get? {key : String} {value : α} {table : List (String × α)}
    (h : get? key table = some value) : (key, value) ∈ table := by
  induction table with
  | nil => simp at h
  | cons entry rest ih =>
    obtain ⟨k, v⟩ := entry
    rw [get?_cons] at h
    by_cases heq : key = k
    · rw [if_pos heq] at h
      simp_all
    · rw [if_neg heq] at h
      exact List.mem_cons_of_mem _ (ih h)

/-! ## Order -/

/-- A table whose keys strictly increase. -/
def Sorted (table : List (String × α)) : Prop :=
  table.Pairwise fun a b ↦ a.1 < b.1

instance (table : List (String × α)) : Decidable (Sorted table) :=
  inferInstanceAs (Decidable (table.Pairwise fun a b ↦ a.1 < b.1))

theorem sorted_nil : Sorted ([] : List (String × α)) := List.Pairwise.nil

theorem mem_insert {key : String} {value : α} {table : List (String × α)} {entry : String × α}
    (h : entry ∈ insert key value table) : entry = (key, value) ∨ entry ∈ table := by
  induction table with
  | nil => exact Or.inl (List.mem_singleton.1 h)
  | cons head rest ih =>
    obtain ⟨k, v⟩ := head
    rw [insert] at h
    split at h
    · exact List.mem_cons.1 h
    · split at h
      · rcases List.mem_cons.1 h with hnew | hold
        · exact Or.inl hnew
        · exact Or.inr (List.mem_cons_of_mem _ hold)
      · rcases List.mem_cons.1 h with hhead | htail
        · exact Or.inr (hhead ▸ List.mem_cons_self)
        · exact (ih htail).imp_right (List.mem_cons_of_mem _)

theorem sorted_insert (key : String) (value : α) {table : List (String × α)}
    (h : Sorted table) : Sorted (insert key value table) := by
  induction table with
  | nil => simp [insert, Sorted]
  | cons head rest ih =>
    obtain ⟨k, v⟩ := head
    obtain ⟨hhead, htail⟩ := List.pairwise_cons.1 h
    by_cases hlt : key < k
    · rw [insert, if_pos hlt]
      refine List.pairwise_cons.2 ⟨?_, h⟩
      intro entry hentry
      rcases List.mem_cons.1 hentry with rfl | hrest
      · exact hlt
      · exact lt_trans hlt (hhead entry hrest)
    · by_cases heq : key = k
      · subst heq
        rw [insert, if_neg hlt, if_pos (by simp)]
        exact List.pairwise_cons.2 ⟨hhead, htail⟩
      · have hgt : k < key := lt_of_le_of_ne (not_lt.1 hlt) (Ne.symm heq)
        rw [insert, if_neg hlt, if_neg (by simp [heq])]
        refine List.pairwise_cons.2 ⟨?_, ih htail⟩
        intro entry hentry
        rcases mem_insert hentry with rfl | hold
        · exact hgt
        · exact hhead entry hold

/-- In a table in order, the entries are what looking up finds. -/
theorem mem_iff_get? {table : List (String × α)} (h : Sorted table) (key : String) (value : α) :
    (key, value) ∈ table ↔ get? key table = some value := by
  refine ⟨fun hmem ↦ ?_, mem_of_get?⟩
  induction table with
  | nil => simp at hmem
  | cons head rest ih =>
    obtain ⟨k, v⟩ := head
    obtain ⟨hhead, htail⟩ := List.pairwise_cons.1 h
    rw [get?_cons]
    rcases List.mem_cons.1 hmem with heq | hrest
    · simp_all
    · have hne : key ≠ k := ne_of_gt (hhead _ hrest)
      rw [if_neg hne]
      exact ih htail hrest

theorem nodup_of_sorted {table : List (String × α)} (h : Sorted table) : table.Nodup := by
  refine h.imp ?_
  rintro entry _ hlt rfl
  exact lt_irrefl entry.1 hlt

/-- Tables in order with the same entry under every key are the same list. -/
theorem eq_of_get? {table other : List (String × α)} (h : Sorted table) (hother : Sorted other)
    (hget : ∀ key, get? key table = get? key other) : table = other := by
  have hperm : table.Perm other := by
    rw [List.perm_ext_iff_of_nodup (nodup_of_sorted h) (nodup_of_sorted hother)]
    rintro ⟨key, value⟩
    rw [mem_iff_get? h, mem_iff_get? hother, hget]
  exact hperm.eq_of_pairwise (fun _ _ _ _ hlt hgt ↦ absurd hgt (lt_asymm hlt)) h hother

/-! ## Keys -/

theorem mem_keys_iff (key : String) (table : List (String × α)) :
    key ∈ keys table ↔ get? key table ≠ none := by
  induction table with
  | nil => simp [keys]
  | cons entry rest ih =>
    obtain ⟨k, v⟩ := entry
    unfold keys at ih ⊢
    rw [List.map_cons, List.mem_cons, ih, get?_cons]
    by_cases h : key = k <;> simp [h]

theorem pairwise_keys {table : List (String × α)} (h : Sorted table) :
    (keys table).Pairwise (· < ·) :=
  List.pairwise_map.2 h

/-- Leaving out keys leaves the entries of the others. -/
theorem get?_filter (p : String → Bool) (key : String) (table : List (String × α)) :
    get? key (table.filter fun entry ↦ p entry.1) = if p key then get? key table else none := by
  induction table with
  | nil => simp
  | cons entry rest ih =>
    obtain ⟨k, v⟩ := entry
    rw [get?_cons]
    by_cases hkey : key = k
    · subst hkey
      cases hp : p key <;> simp [hp, ih, get?_cons]
    · rw [if_neg hkey, ← ih]
      cases hp : p k <;> simp [hp, hkey, get?_cons]

/-! ## Tables of lists -/

theorem ofList_concat (entries : List (String × α)) (entry : String × α) :
    ofList (entries ++ [entry]) = insert entry.1 entry.2 (ofList entries) :=
  List.foldl_append

theorem sorted_ofList (entries : List (String × α)) : Sorted (ofList entries) :=
  List.foldlRecOn (motive := Sorted) entries _ sorted_nil
    fun _ hsorted entry _ ↦ sorted_insert entry.1 entry.2 hsorted

/-- Of several entries of a list with the same key, the last one is in the table of the list. -/
theorem get?_ofList (key : String) (entries : List (String × α)) :
    get? key (ofList entries) = get? key entries.reverse := by
  induction entries using List.reverseRecOn with
  | nil => rfl
  | append_singleton entries entry ih =>
    rw [ofList_concat, get?_insert, List.reverse_append, List.reverse_singleton,
      List.singleton_append, get?_cons, ih]

theorem get?_filterMap {β : Type} (key : String) (f : β → Option (String × α)) (l : List β) :
    get? key (l.filterMap f) =
      l.findSome? fun b ↦ (f b).bind fun entry ↦ if key = entry.1 then some entry.2 else none := by
  induction l with
  | nil => rfl
  | cons b rest ih =>
    cases hb : f b with
    | none => rw [List.filterMap_cons_none hb, ih, List.findSome?_cons, hb, Option.bind_none]
    | some entry =>
      rw [List.filterMap_cons_some hb, get?_cons, ih, List.findSome?_cons, hb, Option.bind_some]
      by_cases hkey : key = entry.1 <;> simp [hkey]

/-- A table made from the elements of a list has, under each key, the entry of the last element with
that key. -/
theorem get?_ofList_filterMap {β : Type} {key : String} {value : α}
    {f : β → Option (String × α)} {l : List β} :
    get? key (ofList (l.filterMap f)) = some value ↔
      ∃ before b after, l = before ++ b :: after ∧ f b = some (key, value) ∧
        ∀ x ∈ after, ∀ w, f x ≠ some (key, w) := by
  have hentry (b : β) (v : α) :
      ((f b).bind fun entry ↦ if key = entry.1 then some entry.2 else none) = some v ↔
        f b = some (key, v) := by
    cases f b with
    | none => simp
    | some entry =>
      obtain ⟨k, w⟩ := entry
      by_cases hkey : key = k
      · simp [hkey]
      · simp [hkey, Ne.symm hkey]
  rw [get?_ofList, ← List.filterMap_reverse, get?_filterMap, List.findSome?_eq_some_iff]
  constructor
  · rintro ⟨later, b, earlier, hl, hb, hnone⟩
    refine ⟨earlier.reverse, b, later.reverse, ?_, (hentry b value).1 hb, fun x hx w hw ↦ ?_⟩
    · rw [← List.reverse_reverse l, hl]
      simp
    · have hfound := (hentry x w).2 hw
      rw [hnone x (List.mem_reverse.1 hx)] at hfound
      simp at hfound
  · rintro ⟨before, b, after, rfl, hb, hlater⟩
    refine ⟨after.reverse, b, before.reverse, by simp, (hentry b value).2 hb, fun x hx ↦ ?_⟩
    apply Option.eq_none_iff_forall_ne_some.2
    intro w hw
    exact hlater x (List.mem_reverse.1 hx) w ((hentry x w).1 hw)

theorem mem_keys_ofList (key : String) (entries : List (String × α)) :
    key ∈ keys (ofList entries) ↔ key ∈ keys entries := by
  rw [mem_keys_iff, get?_ofList, ← mem_keys_iff]
  simp [keys]

/-- A table of a list holds entries of the list only. -/
theorem mem_of_mem_ofList {entries : List (String × α)} {entry : String × α}
    (h : entry ∈ ofList entries) : entry ∈ entries := by
  obtain ⟨key, value⟩ := entry
  rw [mem_iff_get? (sorted_ofList entries), get?_ofList] at h
  exact List.mem_reverse.1 (mem_of_get? h)

theorem nodup_keys_iff_of_perm {entries others : List (String × α)} (h : entries.Perm others) :
    (keys entries).Nodup ↔ (keys others).Nodup :=
  (h.map Prod.fst).nodup_iff

/-- Entries of different keys may be moved. -/
theorem get?_of_perm {entries others : List (String × α)} (h : entries.Perm others)
    (hnodup : (keys entries).Nodup) (key : String) : get? key entries = get? key others := by
  unfold keys at hnodup
  induction h with
  | nil => rfl
  | cons entry _ ih =>
    rw [get?_cons, get?_cons, ih (List.nodup_cons.1 hnodup).2]
  | swap entry other rest =>
    have hne : other.1 ≠ entry.1 := fun heq ↦ (List.nodup_cons.1 hnodup).1 (by simp [heq])
    rw [get?_cons, get?_cons, get?_cons, get?_cons]
    by_cases hkey : key = other.1
    · rw [if_pos hkey, if_neg (hkey ▸ hne), if_pos hkey]
    · rw [if_neg hkey, if_neg hkey]
  | trans hfirst _ ih ih' =>
    exact (ih hnodup).trans (ih' ((nodup_keys_iff_of_perm hfirst).1 hnodup))

theorem get?_of_mem {table : List (String × α)} (hnodup : (keys table).Nodup) {key : String}
    {value : α} (h : (key, value) ∈ table) : get? key table = some value := by
  obtain ⟨front, back, rfl⟩ := List.append_of_mem h
  rw [get?_of_perm List.perm_middle hnodup, get?_cons, if_pos rfl]

theorem nodup_keys_of_sorted {table : List (String × α)} (h : Sorted table) :
    (keys table).Nodup :=
  (pairwise_keys h).imp fun hlt ↦ ne_of_lt hlt

/-- A table is made up again from its entries in any order. -/
theorem ofList_of_perm {table entries : List (String × α)} (hsorted : Sorted table)
    (h : entries.Perm table) : ofList entries = table := by
  have hnodup : (keys entries).Nodup :=
    (nodup_keys_iff_of_perm h).2 (nodup_keys_of_sorted hsorted)
  apply eq_of_get? (sorted_ofList entries) hsorted
  intro key
  calc
    _ = get? key entries.reverse := get?_ofList key entries
    _ = get? key entries :=
      get?_of_perm entries.reverse_perm ((nodup_keys_iff_of_perm entries.reverse_perm).2 hnodup) key
    _ = get? key table := get?_of_perm h hnodup key

/-! ## Sorted names -/

theorem insertName_keys (name : String) (value : α) (table : List (String × α)) :
    insertName name (keys table) = keys (insert name value table) := by
  unfold keys
  induction table with
  | nil => rfl
  | cons entry rest ih =>
    obtain ⟨k, v⟩ := entry
    rw [List.map_cons, insertName, insert]
    split
    · rfl
    · split
      · next heq => simp [beq_iff_eq.1 heq]
      · rw [List.map_cons, ih]

/-- Sorting names is making a table of them. -/
theorem sortNames_eq_keys (names : List String) :
    sortNames names = keys (ofList (names.map fun name ↦ (name, ()))) := by
  induction names using List.reverseRecOn with
  | nil => rfl
  | append_singleton names name ih =>
    have hstep : sortNames (names ++ [name]) = insertName name (sortNames names) :=
      List.foldl_append
    rw [hstep, ih, insertName_keys name (), List.map_append, List.map_singleton, ofList_concat]

@[simp]
theorem mem_sortNames (names : List String) (name : String) :
    name ∈ sortNames names ↔ name ∈ names := by
  rw [sortNames_eq_keys, mem_keys_ofList]
  simp [keys]

theorem pairwise_sortNames (names : List String) : (sortNames names).Pairwise (· < ·) := by
  rw [sortNames_eq_keys]
  exact pairwise_keys (sorted_ofList _)

end ApiAtlas.Keyed
