import ApiAtlas.Accessors
import ApiAtlas.Proofs.NameCharacters

/-!
# Texts with slots

Companion files are made from texts with names in braces, which are replaced one after the other in
the text as it then stands. What was put in for one name is searched again for the next one, so that
filling in means what it should only if no value brings such a name along. Here a text is a list of
pieces, each either fixed or a slot, and filling it puts a value in each slot. Texts of lines come
apart into their lines again.
-/

namespace ApiAtlas.Text

/-! ## Replacing -/

/-- Whether every opening brace of a text ends a line, so that no name in braces begins in it. -/
def isInert : List Char → Bool
  | [] => true
  | '\x7b' :: '\n' :: rest => isInert rest
  | '\x7b' :: _ => false
  | _ :: rest => isInert rest

theorem isInert_cons {c : Char} (hc : c ≠ '\x7b') (rest : List Char) :
    isInert (c :: rest) = isInert rest := by
  rw [isInert]
  · rintro _ rfl
    exact absurd rfl hc
  · exact hc

theorem isInert_of_notMem {cs : List Char} (h : '\x7b' ∉ cs) : isInert cs = true := by
  induction cs with
  | nil => rfl
  | cons c rest ih =>
    rw [List.mem_cons, not_or] at h
    rw [isInert_cons (Ne.symm h.1), ih h.2]

theorem isInert_append {front back : List Char} (hfront : isInert front = true)
    (hback : isInert back = true) : isInert (front ++ back) = true := by
  fun_induction isInert front with
  | case1 => exact hback
  | case2 rest ih => exact ih hfront
  | case3 => simp at hfront
  | case4 c rest _ hc ih =>
    rw [List.cons_append, isInert_cons hc]
    exact ih hfront

/-- The characters of a name in braces. -/
def inBraces (name : List Char) : List Char :=
  '\x7b' :: (name ++ ['\x7d'])

/-- Whether a text can be a name in braces. -/
def isSlotName (name : List Char) : Bool :=
  name.all fun c ↦ c != '\x7b' && c != '\x7d' && c != '\n'

theorem isSlotName_iff {name : List Char} :
    isSlotName name = true ↔ '\x7b' ∉ name ∧ '\x7d' ∉ name ∧ '\n' ∉ name := by
  simp only [isSlotName, List.all_eq_true, Bool.and_eq_true, bne_iff_ne]
  grind

theorem replaceFrom_cons_of_ne {pattern value rest : List Char} {c d : Char} (h : d ≠ c) :
    replaceFrom (c :: pattern) value 0 (d :: rest) =
      d :: replaceFrom (c :: pattern) value 0 rest := by
  rw [replaceFrom, if_neg]
  simp [h.symm]

theorem replaceFrom_skip (pattern value front rest : List Char) :
    replaceFrom pattern value front.length (front ++ rest) = replaceFrom pattern value 0 rest := by
  induction front with
  | nil => rfl
  | cons c front ih => exact ih

theorem replaceFrom_pattern {c : Char} (pattern value rest : List Char) :
    replaceFrom (c :: pattern) value 0 (c :: pattern ++ rest) =
      value ++ replaceFrom (c :: pattern) value 0 rest := by
  have hfound : (c :: pattern).isPrefixOf (c :: (pattern ++ rest)) = true := by simp
  rw [List.cons_append, replaceFrom, if_pos hfound]
  congr 1
  exact replaceFrom_skip _ _ pattern rest

/-- A text without names in braces is left as it is. -/
theorem replaceFrom_inert {name : List Char} (hname : isSlotName name = true) {front : List Char}
    (hfront : isInert front = true) (value rest : List Char) :
    replaceFrom (inBraces name) value 0 (front ++ rest) =
      front ++ replaceFrom (inBraces name) value 0 rest := by
  fun_induction isInert front with
  | case1 => rfl
  | case2 front ih =>
    have hnot : ¬ (inBraces name).isPrefixOf ('\x7b' :: '\n' :: (front ++ rest)) = true := by
      have hline : '\n' ∉ name := (isSlotName_iff.1 hname).2.2
      cases name with
      | nil => simp [inBraces]
      | cons c name =>
        rw [List.mem_cons, not_or] at hline
        simp [inBraces, Ne.symm hline.1]
    rw [List.cons_append, List.cons_append, replaceFrom, if_neg hnot, inBraces,
      replaceFrom_cons_of_ne (by decide), ← inBraces, ih hfront]
    rfl
  | case3 => simp at hfront
  | case4 c front _ hc ih =>
    rw [List.cons_append, inBraces, replaceFrom_cons_of_ne hc, ← inBraces, ih hfront]
    rfl

/-- Another name in braces is left as it is. -/
theorem replaceFrom_inBraces_of_ne {name other : List Char} (hname : isSlotName name = true)
    (hother : isSlotName other = true) (hne : other ≠ name) (value rest : List Char) :
    replaceFrom (inBraces name) value 0 (inBraces other ++ rest) =
      inBraces other ++ replaceFrom (inBraces name) value 0 rest := by
  have hnot : ¬ (inBraces name).isPrefixOf (inBraces other ++ rest) = true := by
    rw [List.isPrefixOf_iff_prefix]
    intro ⟨after, hafter⟩
    simp only [inBraces, List.cons_append, List.append_assoc, List.nil_append, List.cons.injEq,
      true_and] at hafter
    have hstop := congrArg (List.takeWhile fun c ↦ c != '\x7d') hafter
    rw [takeWhile_append_cons (isSlotName_iff.1 hname).2.1,
      takeWhile_append_cons (isSlotName_iff.1 hother).2.1] at hstop
    exact hne hstop.symm
  have hinert : isInert (other ++ ['\x7d']) = true := by
    apply isInert_of_notMem
    simp [(isSlotName_iff.1 hother).1]
  calc
    _ = '\x7b' :: replaceFrom (inBraces name) value 0 (other ++ ['\x7d'] ++ rest) :=
      if_neg hnot
    _ = '\x7b' :: (other ++ ['\x7d'] ++ replaceFrom (inBraces name) value 0 rest) := by
      rw [replaceFrom_inert hname hinert]
    _ = _ := rfl

end ApiAtlas.Text

namespace ApiAtlas.Accessors

open Text

/-! ## Filling slots -/

/-- A piece of a text: fixed characters, or a slot for a value. -/
inductive Piece
  | text (s : String)
  | slot (name : String)
  deriving DecidableEq

namespace Piece

/-- A piece as it stands in a text. -/
def written : Piece → String
  | .text s => s
  | .slot name => "\x7b" ++ name ++ "\x7d"

/-- Whether replacing other names leaves a piece alone. -/
def isProper : Piece → Bool
  | .text s => isInert s.toList
  | .slot name => isSlotName name.toList

/-- A piece with the values of a list in their slots; the first value of a name counts. -/
def filled (values : List (String × String)) : Piece → Piece
  | .text s => .text s
  | .slot name => ((values.lookup name).map Piece.text).getD (.slot name)

end Piece

/-- The text that a list of pieces makes up. -/
def written (pieces : List Piece) : String :=
  String.join (pieces.map Piece.written)

@[simp]
theorem written_nil : written [] = "" := rfl

@[simp]
theorem written_cons (piece : Piece) (pieces : List Piece) :
    written (piece :: pieces) = piece.written ++ written pieces := by
  simp [written]

@[simp]
theorem written_append (front back : List Piece) :
    written (front ++ back) = written front ++ written back := by
  simp [written]

theorem toList_slot (name : String) : (Piece.slot name).written.toList = inBraces name.toList := by
  simp [Piece.written, inBraces]

theorem filled_slot_self (name value : String) (values : List (String × String)) :
    (Piece.slot name).filled ((name, value) :: values) = .text value := by
  simp [Piece.filled]

theorem filled_slot_of_ne {name other : String} (h : other ≠ name) (value : String)
    (values : List (String × String)) :
    (Piece.slot other).filled ((name, value) :: values) = (Piece.slot other).filled values := by
  simp [Piece.filled, List.lookup_cons, beq_false_of_ne h]

theorem filled_cons (entry : String × String) (values : List (String × String)) (piece : Piece) :
    piece.filled (entry :: values) = (piece.filled [entry]).filled values := by
  cases piece with
  | text s => rfl
  | slot name =>
    by_cases hname : name = entry.1
    · subst hname
      rw [filled_slot_self, filled_slot_self]
      rfl
    · rw [filled_slot_of_ne hname, filled_slot_of_ne hname]
      rfl

/-- Replacing a name puts its value in the slots of that name and goes on after the pieces. -/
theorem replaceFrom_written {entry : String × String}
    (hname : isSlotName entry.1.toList = true) {pieces : List Piece}
    (hpieces : ∀ piece ∈ pieces, piece.isProper = true) (rest : List Char) :
    replaceFrom (inBraces entry.1.toList) entry.2.toList 0 ((written pieces).toList ++ rest) =
      (written (pieces.map (Piece.filled [entry]))).toList ++
        replaceFrom (inBraces entry.1.toList) entry.2.toList 0 rest := by
  induction pieces with
  | nil => rfl
  | cons piece pieces ih =>
    have hpiece := hpieces piece List.mem_cons_self
    have hrest := ih fun p hp ↦ hpieces p (List.mem_cons_of_mem piece hp)
    simp only [List.map_cons, written_cons, String.toList_append, List.append_assoc]
    rw [← hrest]
    cases piece with
    | text s => exact replaceFrom_inert hname hpiece _ _
    | slot name =>
      rw [toList_slot]
      by_cases hsame : name = entry.1
      · subst hsame
        rw [filled_slot_self]
        exact replaceFrom_pattern _ _ _
      · have hne : name.toList ≠ entry.1.toList := fun h ↦ hsame (String.toList_inj.1 h)
        rw [filled_slot_of_ne hsame, replaceFrom_inBraces_of_ne hname hpiece hne, ← toList_slot]
        rfl

theorem replaced_written {entry : String × String} (hname : isSlotName entry.1.toList = true)
    {pieces : List Piece} (hpieces : ∀ piece ∈ pieces, piece.isProper = true) (rest : String) :
    replaced ("\x7b" ++ entry.1 ++ "\x7d") entry.2 (written pieces ++ rest) =
      written (pieces.map (Piece.filled [entry])) ++
        replaced ("\x7b" ++ entry.1 ++ "\x7d") entry.2 rest := by
  have hpattern : ("\x7b" ++ entry.1 ++ "\x7d").toList = inBraces entry.1.toList := by
    simp [inBraces]
  rw [← String.toList_inj]
  simp only [replaced, String.toList_ofList, String.toList_append (s := written _), hpattern]
  exact replaceFrom_written hname hpieces rest.toList

/-- What is filled in may be searched again: a name that can stand in braces comes with a value that
brings no such name along, if there is a slot for it. -/
def FitsIn (pieces : List Piece) (entry : String × String) : Prop :=
  isSlotName entry.1.toList = true ∧
    (.slot entry.1 ∈ pieces → isInert entry.2.toList = true)

theorem isProper_filled {entry : String × String} {pieces : List Piece}
    (hentry : FitsIn pieces entry) (hpieces : ∀ piece ∈ pieces, piece.isProper = true) :
    ∀ piece ∈ pieces.map (Piece.filled [entry]), piece.isProper = true := by
  intro piece hpiece
  obtain ⟨first, hfirst, rfl⟩ := List.mem_map.1 hpiece
  cases first with
  | text s => exact hpieces _ hfirst
  | slot name =>
    by_cases hname : name = entry.1
    · subst hname
      rw [filled_slot_self]
      exact hentry.2 hfirst
    · rw [filled_slot_of_ne hname]
      exact hpieces _ hfirst

theorem FitsIn.filled {entry other : String × String} {pieces : List Piece}
    (h : FitsIn pieces other) : FitsIn (pieces.map (Piece.filled [entry])) other := by
  refine ⟨h.1, fun hslot ↦ h.2 ?_⟩
  obtain ⟨first, hfirst, hfilled⟩ := List.mem_map.1 hslot
  cases first with
  | text s => simp [Piece.filled] at hfilled
  | slot name =>
    by_cases hname : name = entry.1
    · subst hname
      rw [filled_slot_self] at hfilled
      simp at hfilled
    · rw [filled_slot_of_ne hname] at hfilled
      exact hfilled ▸ hfirst

/-- Filling in values puts each of them in the slots of its name, whatever comes after the
pieces. -/
theorem fill_written {values : List (String × String)} {pieces : List Piece}
    (hvalues : ∀ entry ∈ values, FitsIn pieces entry)
    (hpieces : ∀ piece ∈ pieces, piece.isProper = true) (rest : String) :
    fill (written pieces ++ rest) values =
      written (pieces.map (Piece.filled values)) ++ fill rest values := by
  induction values generalizing pieces rest with
  | nil =>
    have hid : Piece.filled [] = id := by
      funext piece
      cases piece <;> rfl
    rw [hid, List.map_id]
    rfl
  | cons entry values ih =>
    have hentry := hvalues entry List.mem_cons_self
    have hothers : ∀ other ∈ values, FitsIn (pieces.map (Piece.filled [entry])) other :=
      fun other hother ↦ (hvalues other (List.mem_cons_of_mem entry hother)).filled
    calc
      _ = fill (replaced ("\x7b" ++ entry.1 ++ "\x7d") entry.2 (written pieces ++ rest))
          values := rfl
      _ = written ((pieces.map (Piece.filled [entry])).map (Piece.filled values)) ++
          fill (replaced ("\x7b" ++ entry.1 ++ "\x7d") entry.2 rest) values := by
        rw [replaced_written hentry.1 hpieces, ih hothers (isProper_filled hentry hpieces)]
      _ = written (pieces.map (Piece.filled (entry :: values))) ++ fill rest (entry :: values) := by
        have hboth : Piece.filled values ∘ Piece.filled [entry] =
            Piece.filled (entry :: values) := by
          funext piece
          exact (filled_cons entry values piece).symm
        rw [List.map_map, hboth]
        rfl

theorem fill_empty (values : List (String × String)) : fill "" values = "" := by
  induction values with
  | nil => rfl
  | cons entry values ih => exact ih

/-! ## Lines -/

/-- The lines of a text. -/
def lines (text : String) : List String :=
  (splitOn '\n' text.toList).map String.ofList

/-- The text with the given lines, each of them ended. -/
def unlines (ls : List String) : String :=
  String.join (ls.map fun line ↦ line ++ "\n")

@[simp]
theorem unlines_nil : unlines [] = "" := rfl

@[simp]
theorem unlines_cons (line : String) (ls : List String) :
    unlines (line :: ls) = line ++ "\n" ++ unlines ls := by
  simp [unlines]

@[simp]
theorem unlines_append (front back : List String) :
    unlines (front ++ back) = unlines front ++ unlines back := by
  simp [unlines]

/-- Lines come apart again, whatever comes after them. -/
theorem lines_unlines_append {ls : List String} (h : ∀ line ∈ ls, '\n' ∉ line.toList)
    (rest : String) : lines (unlines ls ++ rest) = ls ++ lines rest := by
  induction ls with
  | nil => simp
  | cons line ls ih =>
    have hrest := ih fun other hother ↦ h other (List.mem_cons_of_mem line hother)
    have hchars : (unlines (line :: ls) ++ rest).toList =
        line.toList ++ '\n' :: (unlines ls ++ rest).toList := by
      simp
    rw [lines, hchars, splitOn_eq_splitOn,
      List.splitOn_append_cons_self_of_not_mem (h line List.mem_cons_self), List.map_cons,
      String.ofList_toList, List.cons_append, ← hrest, lines, splitOn_eq_splitOn]

/-- A line of a text with slots; what comes last in it is fixed. -/
structure Line where
  front : List Piece
  last : String

namespace Line

/-- The pieces of a line, which is ended. -/
def pieces (line : Line) : List Piece :=
  line.front ++ [.text (line.last ++ "\n")]

/-- A line with the values of a list in its slots. -/
def filled (values : List (String × String)) (line : Line) : String :=
  written (line.front.map (Piece.filled values)) ++ line.last

end Line

theorem written_filled_lines (values : List (String × String)) (ls : List Line) :
    written ((ls.flatMap Line.pieces).map (Piece.filled values)) =
      unlines (ls.map (Line.filled values)) := by
  induction ls with
  | nil => rfl
  | cons line ls ih =>
    rw [List.flatMap_cons, List.map_append, written_append, ih]
    simp [Line.pieces, Line.filled, Piece.filled, Piece.written, String.append_assoc]

end ApiAtlas.Accessors
