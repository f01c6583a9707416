import ApiAtlas.Proofs.TypeText
import Mathlib.Data.Set.Function

/-!
# The notation of type expressions

Whatever is read from a text can be written and read again without a change. The expressions that
are read at all are made up of the unit type and of names with arguments. Several names may stand
for one expression, such as all those of sequences, but its notation uses one of them, and that one
stands for the same expression.
-/

namespace ApiAtlas.TypeExpr

open Text

/-! ## What is read -/

/-- The expressions that texts denote: the unit type, and what a name makes of arguments that texts
denote. -/
inductive Readable : TypeExpr → Prop
  | unit : Readable (.named "()")
  | base {base : String} {args : List TypeExpr} (hbase : IsWord base.toList)
      (hargs : ∀ a ∈ args, Readable a) : Readable (ofBase base args)

theorem isWord_of_segment? {path : List Char} {name : String} (h : segment? path = some name) :
    IsWord name.toList := by
  simp only [segment?] at h
  split at h
  · next hname =>
    simp only [Bool.and_eq_true, Bool.not_eq_true', List.all_eq_true] at hname
    obtain rfl := Option.some.inj h
    rw [String.toList_ofList]
    exact ⟨by simpa using hname.1, hname.2⟩
  · simp at h

theorem isWord_of_mem {name : String} (h : name ∈ ["Option", "Vec", "HashMap"]) :
    IsWord name.toList := by
  revert name
  decide +kernel

theorem length_lt_weight {pieces : List (List Char)} {piece : List Char} (h : piece ∈ pieces) :
    piece.length < weight pieces := by
  induction pieces with
  | nil => exact absurd h List.not_mem_nil
  | cons first rest ih =>
    rw [weight]
    rcases List.mem_cons.1 h with rfl | hrest
    · omega
    · have := ih hrest
      omega

theorem exists_piece_of_parseAll? {pieces : List (List Char)} {ts : List TypeExpr}
    (h : parseAll? pieces = some ts) : ∀ t ∈ ts, ∃ piece ∈ pieces, parseChars? piece = some t := by
  induction pieces generalizing ts with
  | nil =>
    rw [parseAll?_nil] at h
    obtain rfl := Option.some.inj h
    exact List.forall_mem_nil _
  | cons first rest ih =>
    rw [parseAll?_cons] at h
    obtain ⟨t, ht, hmap⟩ := Option.bind_eq_some_iff.1 h
    obtain ⟨others, hothers, rfl⟩ := Option.map_eq_some_iff.1 hmap
    refine List.forall_mem_cons.2 ⟨⟨first, List.mem_cons_self, ht⟩, ?_⟩
    intro u hu
    obtain ⟨piece, hpiece, hread⟩ := ih hothers u hu
    exact ⟨piece, List.mem_cons_of_mem _ hpiece, hread⟩

/-- A path that is read is a name, with arguments that are read from parts of it. -/
theorem exists_ofBase_of_parsePath? {body : List Char} {t : TypeExpr}
    (h : parsePath? body = some t) :
    ∃ base args, IsWord base.toList ∧ t = ofBase base args ∧
      ∀ a ∈ args, ∃ piece, piece.length < body.length ∧ parseChars? piece = some a := by
  unfold parsePath? at h
  split at h
  · obtain ⟨name, hname, rfl⟩ := Option.map_eq_some_iff.1 h
    exact ⟨name, [], isWord_of_segment? hname, rfl, List.forall_mem_nil _⟩
  · next before after hangle =>
    split at h
    · next inner base hinner hbase =>
      obtain ⟨args, hargs, rfl⟩ := Option.map_eq_some_iff.1 h
      refine ⟨base, args, isWord_of_segment? hbase, rfl, fun a ha ↦ ?_⟩
      obtain ⟨piece, hpiece, hread⟩ := exists_piece_of_parseAll? hargs a ha
      refine ⟨piece, ?_, hread⟩
      have hshorter := length_lt_weight (List.mem_filter.1 hpiece).1
      have hweight := weight_splitTopLevel_le ',' inner
      have hfinal := length_of_dropFinal? hinner
      have hstart := length_of_splitAngle hangle
      omega
    · exact absurd h (by simp)

/-- Whatever is read is the unit type, or a name with arguments that are read from shorter texts. -/
theorem exists_ofBase_of_parseChars? {text : List Char} {t : TypeExpr}
    (h : parseChars? text = some t) :
    t = .named "()" ∨ ∃ base args, IsWord base.toList ∧ t = ofBase base args ∧
      ∀ a ∈ args, ∃ piece, piece.length < text.length ∧ parseChars? piece = some a := by
  rw [parseChars?_eq_bind] at h
  obtain ⟨body, hbody, hread⟩ := Option.bind_eq_some_iff.1 h
  have hshorter : body.length ≤ text.length :=
    (length_of_dropReference? hbody).trans (length_trim_le text)
  unfold parseBody? at hread
  split at hread
  · exact absurd hread (by simp)
  · split at hread
    · exact .inl (Option.some.inj hread).symm
    · right
      split at hread
      · next inner hinner =>
        obtain ⟨u, hu, rfl⟩ := Option.map_eq_some_iff.1 hread
        obtain ⟨element, helement, hread⟩ := Option.bind_eq_some_iff.1 hu
        have hbracketed := length_of_bracketed? hinner
        have hfirst := length_head?_splitTopLevel helement
        refine ⟨"Vec", [u], isWord_of_mem (by decide), rfl, List.forall_mem_singleton.2 ?_⟩
        exact ⟨element, by omega, hread⟩
      · obtain ⟨base, args, hbase, rfl, hargs⟩ := exists_ofBase_of_parsePath? hread
        refine ⟨base, args, hbase, rfl, fun a ha ↦ ?_⟩
        obtain ⟨piece, hpiece, hread⟩ := hargs a ha
        exact ⟨piece, by omega, hread⟩

theorem readable_of_parseChars? {text : List Char} {t : TypeExpr} (h : parseChars? text = some t) :
    Readable t := by
  -- Arguments are read from shorter texts, so the induction is on the length of the text.
  induction hlength : text.length using Nat.strongRecOn generalizing text t with
  | _ length ih =>
    rcases exists_ofBase_of_parseChars? h with rfl | ⟨base, args, hbase, rfl, hargs⟩
    · exact .unit
    · refine .base hbase fun a ha ↦ ?_
      obtain ⟨piece, hpiece, hread⟩ := hargs a ha
      exact ih piece.length (hlength ▸ hpiece) hread rfl

/-! ## What is written -/

theorem spaced_renderArgs (args : List TypeExpr) :
    Spaced ',' (args.map fun a ↦ a.render.toList) (renderArgs args).toList := by
  induction args with
  | nil => exact .nil
  | cons a rest ih =>
    cases rest with
    | nil => exact .single _
    | cons next rest =>
      have hcons := Spaced.cons a.render.toList [] [' '] (List.forall_mem_nil _)
        (List.forall_mem_singleton.2 rfl) ih
      simpa [renderArgs] using hcons

/-- The name in the notation of an expression stands for that expression, given the same
arguments. -/
theorem exists_render_ofBase {base : String} (hbase : IsWord base.toList) (args : List TypeExpr) :
    ∃ name, IsWord name.toList ∧ ofBase name args = ofBase base args ∧
      (ofBase base args).render =
        if args = [] then name else name ++ "<" ++ renderArgs args ++ ">" := by
  match args with
  | [] => exact ⟨base, hbase, rfl, rfl⟩
  | [a] =>
    by_cases hoption : base = "Option"
    · subst hoption
      exact ⟨"Option", hbase, rfl, rfl⟩
    · by_cases hsequence : base ∈ sequences
      · have hform : ofBase base [a] = .sequence a := by simp [ofBase, hoption, hsequence]
        rw [hform]
        exact ⟨"Vec", isWord_of_mem (by decide), rfl, rfl⟩
      · have hform : ofBase base [a] = .generic base [a] := by simp [ofBase, hoption, hsequence]
        rw [hform]
        exact ⟨base, hbase, hform, rfl⟩
  | [k, v] =>
    by_cases hmap : base ∈ maps
    · have hform : ofBase base [k, v] = .map k v := by simp [ofBase, hmap]
      rw [hform]
      refine ⟨"HashMap", isWord_of_mem (by decide), rfl, ?_⟩
      simp [render, renderArgs, String.append_assoc]
    · have hform : ofBase base [k, v] = .generic base [k, v] := by simp [ofBase, hmap]
      rw [hform]
      exact ⟨base, hbase, hform, rfl⟩
  | first :: second :: third :: rest => exact ⟨base, hbase, rfl, rfl⟩

theorem denotesAll_render {args : List TypeExpr} (h : ∀ a ∈ args, Denotes a.render.toList a) :
    DenotesAll (args.map fun a ↦ a.render.toList) args := by
  induction args with
  | nil => exact .nil
  | cons a rest ih =>
    have hrest := ih fun b hb ↦ h b (List.mem_cons_of_mem _ hb)
    exact hrest.type (h a List.mem_cons_self)

theorem Readable.denotes_render {t : TypeExpr} (h : Readable t) : Denotes t.render.toList t := by
  induction h with
  | unit => exact denotes_unit
  | @base base args hbase _ ih =>
    obtain ⟨name, hname, hsame, hrender⟩ := exists_render_ofBase hbase args
    have hpath : IsPath name.toList name := by simpa using hname.isPath
    -- The notation may use another name than the one that was read, but for the same expression.
    rw [← hsame] at hrender ⊢
    by_cases hargs : args = []
    · rw [hrender, if_pos hargs]
      subst hargs
      exact hpath.denotes
    · have htext : (TypeExpr.ofBase name args).render.toList =
          name.toList ++ '<' :: ((renderArgs args).toList ++ ['>']) := by
        rw [hrender, if_neg hargs]
        simp
      rw [htext]
      exact hpath.denotes_angle (spaced_renderArgs args) (denotesAll_render ih)

theorem parse?_render_of_parse? {text : String} {t : TypeExpr} (h : parse? text = some t) :
    parse? t.render = some t :=
  (readable_of_parseChars? h).denotes_render.parse

/-- The notation of an expression that was read is read as that expression, and so no two
expressions that were read share their notation. -/
theorem parse?_render_and_injOn :
    (∀ (text : String) (t : TypeExpr), parse? text = some t → parse? t.render = some t) ∧
      Set.InjOn render {t | ∃ text, parse? text = some t} := by
  refine ⟨fun _ _ ↦ parse?_render_of_parse?, ?_⟩
  rintro t ⟨text, ht⟩ u ⟨other, hu⟩ hrender
  have hread := parse?_render_of_parse? ht
  rw [hrender, parse?_render_of_parse? hu] at hread
  exact (Option.some.inj hread).symm

/-- A text whose notation is another one: of the map, the set and the array only their kinds
remain, and nothing of the lifetime and the path. -/
theorem parse?_render_of_index :
    ∃ t, parse? "indexmap::IndexMap<&'a str, BTreeSet<Result<[u8; 4], ()>>>" = some t ∧
      t.render = "HashMap<str, Vec<Result<Vec<u8>, ()>>>" ∧ parse? t.render = some t := by
  have hread : (parse? "indexmap::IndexMap<&'a str, BTreeSet<Result<[u8; 4], ()>>>").map render =
      some "HashMap<str, Vec<Result<Vec<u8>, ()>>>" := by decide +kernel
  obtain ⟨t, ht, hrender⟩ := Option.map_eq_some_iff.1 hread
  exact ⟨t, ht, hrender, parse?_render_and_injOn.1 _ t ht⟩

end ApiAtlas.TypeExpr
