import ApiAtlas.Proofs.TypeText
import ApiAtlas.TypeExpr.OfTree

/-!
# Types as trees and as texts

The expression of a type can be taken from its syntax tree or read from its text, and both ways lead
to the same expression. `Written` says how a tree is written. It leaves open what a tree does not
tell: whether a path starts at the root, how the number in a length is spelled, and which blanks
stand around commas and semicolons. Every form of tree has its law about the reader of texts, so
that the agreement follows by induction on how a tree is written.
-/

namespace ApiAtlas.TypeExpr

open Source Text

/-! ## Paths -/

/-- What stands in front of the last segment of a path. -/
def qualification (rooted : Bool) (front : List String) : List Char :=
  (if rooted then "::".toList else []) ++ front.flatMap fun name ↦ name.toList ++ "::".toList

theorem isPathChar_qualification (rooted : Bool) {front : List String}
    (hfront : ∀ segment ∈ front, IsWord segment.toList) :
    ∀ c ∈ qualification rooted front, isPathChar c = true := by
  have hcolons : ∀ c ∈ "::".toList, isPathChar c = true := List.all_eq_true.1 (by decide +kernel)
  have hroot : ∀ c ∈ (if rooted then "::".toList else []), isPathChar c = true := by
    cases rooted with
    | false => exact List.forall_mem_nil _
    | true => exact hcolons
  refine List.forall_mem_append.2 ⟨hroot, fun c hc ↦ ?_⟩
  obtain ⟨segment, hsegment, hmem⟩ := List.mem_flatMap.1 hc
  rcases List.mem_append.1 hmem with hword | hcolon
  · exact isPathChar_of_isWordChar ((hfront segment hsegment).chars c hword)
  · exact hcolons c hcolon

/-- A qualified name is a path, and the name is its last segment. -/
theorem isPath_qualification (rooted : Bool) {front : List String} {name : String}
    (hfront : ∀ segment ∈ front, IsWord segment.toList) (hname : IsWord name.toList) :
    IsPath (qualification rooted front ++ name.toList) name := by
  rcases List.eq_nil_or_concat front with rfl | ⟨init, last, rfl⟩
  · cases rooted with
    | false => simpa [qualification] using hname.isPath
    | true => simpa [qualification] using hname.isPath_append (List.forall_mem_nil _)
  · rw [List.concat_eq_append, List.forall_mem_append] at hfront
    have hlast := hfront.2 last List.mem_cons_self
    have hbefore : ∀ c ∈ qualification rooted init ++ last.toList, isPathChar c = true :=
      List.forall_mem_append.2 ⟨isPathChar_qualification rooted hfront.1, hlast.isPath.chars⟩
    have htext : qualification rooted (init.concat last) ++ name.toList =
        (qualification rooted init ++ last.toList) ++ ':' :: ':' :: name.toList := by
      simp [qualification]
    rw [htext]
    simpa using hname.isPath_append hbefore

theorem ofSegments_append (front : List String) (last : Segment) :
    ofSegments (front.map .plain ++ [last]) = ofSegments [last] := by
  induction front with
  | nil => rfl
  | cons name front ih =>
    cases front with
    | nil => simp [ofSegments]
    | cons next front => simpa [ofSegments] using ih

/-! ## How trees are written -/

/-- How the length of an array is written: as the name of a constant, or as a number. -/
inductive WrittenLength : Expr → List Char → Prop
  | name {name : String} (hname : IsWord name.toList) :
      WrittenLength (.path none [.plain name]) name.toList
  | number {value : Nat} {suffixed : Bool} {word : List Char} (hword : IsWord word)
      (hread : Lexer.number? word = some (.int value suffixed, [])) :
      WrittenLength (.literal (.int value suffixed)) word

mutual

/-- How a type is written that is made up of paths, references, slices, arrays and the unit type.
The target of a reference is no reference itself. -/
inductive Written : Ty → List Char → Prop
  | unit : Written (.tuple []) "()".toList
  | slice {element : Ty} {text : List Char} (helement : Written element text) :
      Written (.slice element) ('[' :: (text ++ [']']))
  | array {element : Ty} {length : Expr} {text word inner : List Char}
      (helement : Written element text) (hlength : WrittenLength length word)
      (hinner : Spaced ';' [text, word] inner) :
      Written (.array element length) ('[' :: (inner ++ [']']))
  | reference {target : Ty} {text : List Char} {lifetime : Option String} (mutable : Bool)
      (hlifetime : ∀ name ∈ lifetime, IsWord name.toList)
      (hdirect : ∀ lifetime mutable inner, target ≠ .reference lifetime mutable inner)
      (htarget : Written target text) :
      Written (.reference lifetime mutable target) (referenceMark lifetime mutable ++ text)
  | plain {front : List String} {name : String} (rooted : Bool)
      (hfront : ∀ segment ∈ front, IsWord segment.toList) (hname : IsWord name.toList) :
      Written (.path none (front.map .plain ++ [.plain name]))
        (qualification rooted front ++ name.toList)
  | angle {front : List String} {name : String} {args : List GenericArg}
      {texts : List (List Char)} {inner : List Char} (rooted : Bool)
      (hfront : ∀ segment ∈ front, IsWord segment.toList) (hname : IsWord name.toList)
      (hne : args ≠ []) (hargs : WrittenArgs args texts) (hinner : Spaced ',' texts inner) :
      Written (.path none (front.map .plain ++ [.angle name args]))
        (qualification rooted front ++ name.toList ++ '<' :: (inner ++ ['>']))

/-- How arguments are written one by one. -/
inductive WrittenArgs : List GenericArg → List (List Char) → Prop
  | nil : WrittenArgs [] []
  | lifetime {name : String} {args : List GenericArg} {texts : List (List Char)}
      (hname : IsWord name.toList) (hargs : WrittenArgs args texts) :
      WrittenArgs (.lifetime name :: args) (('\'' :: name.toList) :: texts)
  | type {t : Ty} {text : List Char} {args : List GenericArg} {texts : List (List Char)}
      (ht : Written t text) (hargs : WrittenArgs args texts) :
      WrittenArgs (.type t :: args) (text :: texts)

end

theorem WrittenLength.isPiece {length : Expr} {word : List Char} (h : WrittenLength length word) :
    IsPiece word := by
  cases h with
  | name hname => exact hname.isPath.denotes.toIsPiece
  | number hword => exact hword.isPath.denotes.toIsPiece

/-- Only a reference starts with its mark. -/
theorem Written.head?_ne {t : Ty} {text : List Char} (h : Written t text)
    (ht : ∀ lifetime mutable inner, t ≠ .reference lifetime mutable inner) :
    text.head? ≠ some '&' := by
  cases h with
  | unit => decide
  | slice => simp
  | array => simp
  | reference => exact absurd rfl (ht _ _ _)
  | plain rooted hfront hname =>
    simpa using (isPath_qualification rooted hfront hname).head?_append [] '&' (by decide)
  | angle rooted hfront hname =>
    exact (isPath_qualification rooted hfront hname).head?_append _ '&' (by decide)

mutual

/-- A written tree denotes its expression. -/
theorem Written.denotes {t : Ty} {text : List Char} : Written t text → Denotes text (ofTy t)
  | .unit => by
    rw [ofTy]
    exact denotes_unit
  | .slice helement => by
    rw [ofTy]
    exact denotes_brackets (.single _) helement.denotes (List.forall_mem_nil _)
  | .array helement hlength hinner => by
    rw [ofTy]
    exact denotes_brackets hinner helement.denotes (List.forall_mem_singleton.2 hlength.isPiece)
  | .reference mutable hlifetime hdirect htarget => by
    rw [ofTy]
    exact htarget.denotes.reference (htarget.head?_ne hdirect) hlifetime mutable
  | .plain rooted hfront hname => by
    rw [ofTy, ofSegments_append, ofSegments]
    exact (isPath_qualification rooted hfront hname).denotes
  | .angle rooted hfront hname _ hargs hinner => by
    rw [ofTy, ofSegments_append, ofSegments]
    exact (isPath_qualification rooted hfront hname).denotes_angle hinner hargs.denotesAll

theorem WrittenArgs.denotesAll {args : List GenericArg} {texts : List (List Char)} :
    WrittenArgs args texts → DenotesAll texts (ofArgs args)
  | .nil => by
    rw [ofArgs]
    exact .nil
  | .lifetime hname hargs => by
    rw [ofArgs]
    · exact hargs.denotesAll.lifetime hname
    · simp
  | .type ht hargs => by
    rw [ofArgs]
    exact hargs.denotesAll.type ht.denotes

end

/-- What is read from the text of a type is the expression of its tree. -/
theorem parse?_of_written (t : Ty) (text : String) (h : Written t text.toList) :
    parse? text = some (ofTy t) :=
  h.denotes.parse

/-- Sixteen maps behind a reference, with each form of type somewhere inside. -/
def indexTree : Ty :=
  .reference (some "a") true (.array
    (.path none [.plain "std", .plain "collections", .angle "BTreeMap"
      [.type (.path none [.angle "Cow"
          [.lifetime "b", .type (.array (.path none [.plain "u8"]) (.path none [.plain "N"]))]]),
        .type (.slice (.tuple []))]])
    (.literal (.int 16 true)))

def indexText : String :=
  "&'a mut [std::collections::BTreeMap<Cow<'b, [u8; N]>, [()]>; 0x10usize]"

theorem written_indexTree : Written indexTree indexText.toList := by
  have hwords : ∀ word ∈ ["a", "BTreeMap", "Cow", "b", "u8", "N", "0x10usize"],
      IsWord word.toList := by decide +kernel
  have hpair (sep : Char) (first second : List Char) :
      Spaced sep [first, second] (first ++ [] ++ sep :: ([' '] ++ second)) :=
    .cons _ [] [' '] (List.forall_mem_nil _) (List.forall_mem_singleton.2 rfl) (.single _)
  have hbyte : Written (.path none [.plain "u8"]) "u8".toList :=
    .plain false (List.forall_mem_nil _) (hwords "u8" (by decide))
  have hbytes : Written (.array (.path none [.plain "u8"]) (.path none [.plain "N"]))
      "[u8; N]".toList :=
    .array hbyte (.name (hwords "N" (by decide))) (hpair _ _ _)
  have hborrowed : Written (.path none [.angle "Cow"
        [.lifetime "b", .type (.array (.path none [.plain "u8"]) (.path none [.plain "N"]))]])
      "Cow<'b, [u8; N]>".toList :=
    .angle false (List.forall_mem_nil _) (hwords "Cow" (by decide)) (by simp)
      (.lifetime (hwords "b" (by decide)) (.type hbytes .nil)) (hpair _ _ _)
  have hfront : ∀ segment ∈ ["std", "collections"], IsWord segment.toList := by decide +kernel
  have hindex := Written.angle false hfront (hwords "BTreeMap" (by decide)) (by simp)
    (.type hborrowed (.type (.slice .unit) .nil)) (hpair _ _ _)
  have hlength : WrittenLength (.literal (.int 16 true)) "0x10usize".toList :=
    .number (hwords "0x10usize" (by decide)) (by decide +kernel)
  exact .reference true (fun name hname ↦ hwords name (by simp_all)) (by simp)
    (.array hindex hlength (hpair _ _ _))

theorem parse?_of_written_index :
    Written indexTree indexText.toList ∧ parse? indexText = some (ofTy indexTree) ∧
      (ofSource? indexText).map render = some (ofTy indexTree).render :=
  ⟨written_indexTree, parse?_of_written indexTree indexText written_indexTree, by decide +kernel⟩

end ApiAtlas.TypeExpr
