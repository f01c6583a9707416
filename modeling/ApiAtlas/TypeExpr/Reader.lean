import ApiAtlas.Text.Alphanumeric
import ApiAtlas.Text.Depth
import ApiAtlas.Text.Split
import ApiAtlas.TypeExpr.Basic

/-!
# Reading type expressions from text

`TypeExpr.parse?` reads the usual notation: paths with generic arguments, references, slices and
arrays. Arguments are cut at commas outside all brackets, so nested arguments stay whole. Lifetimes
carry nothing and are dropped, and of a path only its last segment counts.
-/

namespace ApiAtlas.TypeExpr

open Text

/-- How a character changes the bracket depth, angle brackets included. -/
def depthChange (c : Char) : Int :=
  if c == '<' || c == '[' || c == '(' then 1
  else if c == '>' || c == ']' || c == ')' then -1
  else 0

/-- The trimmed pieces of a text between the separators at bracket depth zero. A blank text has no
pieces at all. -/
def splitTopLevel (sep : Char) (cs : List Char) : List (List Char) :=
  match trimmedPieces depthChange sep cs with
  | [[]] => []
  | pieces => pieces

/-- Splits a text at its first opening angle bracket outside parentheses and square brackets. -/
def splitAngle (depth : Int) : List Char → Option (List Char × List Char)
  | [] => none
  | c :: rest =>
    if c == '<' && depth == 0 then some ([], rest)
    else
      let change : Int :=
        if c == '(' || c == '[' then 1 else if c == ')' || c == ']' then -1 else 0
      (splitAngle (depth + change) rest).map fun (before, after) ↦ (c :: before, after)

/-- The last segment of a path, if it is spelled with letters, digits and underscores only. -/
def segment? (cs : List Char) : Option String :=
  let name := trim (afterColons cs)
  if !name.isEmpty && name.all fun c ↦ isAlphanumeric c || c == '_' then some (String.ofList name)
  else none

/-- Drops the mark of a reference with its lifetime and mutability; a lifetime must be followed by
a blank. -/
def dropReference? (cs : List Char) : Option (List Char) :=
  match cs with
  | '&' :: rest =>
    let rest := trimStart rest
    let afterLifetime : Option (List Char) :=
      match rest with
      | '\'' :: _ =>
        match rest.dropWhile fun c ↦ !isBlank c with
        | [] => none
        | blank => some (trimStart blank)
      | _ => some rest
    afterLifetime.map fun cs ↦
      match dropLead? "mut ".toList cs with
      | some target => trimStart target
      | none => cs
  | _ => some cs

/-- Whether an argument is a lifetime. -/
def isLifetime (cs : List Char) : Bool :=
  (trimStart cs).head? == some '\''

/-- The elements between square brackets. -/
def bracketed? (cs : List Char) : Option (List Char) :=
  match cs with
  | '[' :: rest => dropFinal? ']' rest
  | _ => none

/-! ## Sizes -/

theorem weight_splitTopLevel_le (sep : Char) (cs : List Char) :
    weight (splitTopLevel sep cs) ≤ cs.length + 1 := by
  have h := weight_trimmedPieces_le depthChange sep cs
  unfold splitTopLevel
  split
  · simp [weight]
  · exact h

theorem length_of_splitAngle {depth : Int} {cs before after : List Char}
    (h : splitAngle depth cs = some (before, after)) : after.length < cs.length := by
  induction cs generalizing depth before after with
  | nil => simp [splitAngle] at h
  | cons c rest ih =>
    unfold splitAngle at h
    split at h
    · simp only [Option.some.injEq, Prod.mk.injEq] at h
      simp [← h.2]
    · simp only [Option.map_eq_some_iff, Prod.mk.injEq, Prod.exists] at h
      obtain ⟨b, a, hsplit, _, rfl⟩ := h
      have := ih hsplit
      simp only [List.length_cons]
      omega

theorem length_of_dropFinal? {c : Char} {cs rest : List Char} (h : dropFinal? c cs = some rest) :
    rest.length < cs.length := by
  unfold dropFinal? at h
  split at h
  · next hlast =>
    have hne : cs ≠ [] := by
      rintro rfl
      simp at hlast
    have hpos : 0 < cs.length := List.length_pos_iff.2 hne
    simp only [Option.some.injEq] at h
    rw [← h, List.length_dropLast]
    omega
  · simp at h

theorem length_dropLead? {lead cs rest : List Char} (h : dropLead? lead cs = some rest) :
    rest.length ≤ cs.length := by
  induction lead generalizing cs with
  | nil =>
    simp only [dropLead?, Option.some.injEq] at h
    simp [h]
  | cons p ps ih =>
    cases cs with
    | nil => simp [dropLead?] at h
    | cons c cs =>
      unfold dropLead? at h
      split at h
      · have := ih h
        simp only [List.length_cons]
        omega
      · simp at h

theorem length_of_dropReference? {cs rest : List Char} (h : dropReference? cs = some rest) :
    rest.length ≤ cs.length := by
  unfold dropReference? at h
  split at h
  · next tail =>
    simp only [Option.map_eq_some_iff] at h
    obtain ⟨target, htarget, hrest⟩ := h
    have hlen : target.length ≤ tail.length := by
      split at htarget
      · next heq =>
        split at htarget
        · simp at htarget
        · simp only [Option.some.injEq] at htarget
          rw [← htarget]
          refine Nat.le_trans (length_trimStart_le _) ?_
          exact Nat.le_trans (List.dropWhile_suffix _).length_le (length_trimStart_le tail)
      · simp only [Option.some.injEq] at htarget
        rw [← htarget]
        exact length_trimStart_le tail
    have hfinal : rest.length ≤ target.length := by
      split at hrest
      · next heq =>
        rw [← hrest]
        exact Nat.le_trans (length_trimStart_le _) (length_dropLead? heq)
      · simp [← hrest]
    simp only [List.length_cons]
    omega
  · simp only [Option.some.injEq] at h
    simp [h]

theorem length_of_bracketed? {cs rest : List Char} (h : bracketed? cs = some rest) :
    rest.length + 1 < cs.length := by
  unfold bracketed? at h
  split at h
  · have := length_of_dropFinal? h
    simp only [List.length_cons]
    omega
  · simp at h

theorem length_head?_splitTopLevel {sep : Char} {cs piece : List Char}
    (h : (splitTopLevel sep cs).head? = some piece) : piece.length ≤ cs.length := by
  have hw := weight_splitTopLevel_le sep cs
  cases hs : splitTopLevel sep cs with
  | nil => simp [hs] at h
  | cons first rest =>
    rw [hs] at h hw
    simp only [List.head?_cons, Option.some.injEq] at h
    subst h
    simp only [weight] at hw
    omega

/-! ## The reader -/

mutual

/-- Reads a type expression. -/
def parseChars? (text : List Char) : Option TypeExpr :=
  match _href : dropReference? (trim text) with
  | none => none
  | some body =>
    if body.isEmpty then none
    else if body == "()".toList then some (.named "()")
    else
      match _hb : bracketed? body with
      | some inner =>
        match _hh : (splitTopLevel ';' inner).head? with
        | some element => (parseChars? element).map .sequence
        | none => none
      | none =>
        match _hs : splitAngle 0 body with
        | none => (segment? body).map .named
        | some (before, after) =>
          match _hd : dropFinal? '>' after with
          | none => none
          | some inner =>
            match segment? before with
            | none => none
            | some base =>
              (parseAll? ((splitTopLevel ',' inner).filter fun arg ↦ !isLifetime arg)).map
                (ofBase base)
termination_by text.length
decreasing_by
  · have h1 := length_of_dropReference? _href
    have h2 := length_trim_le text
    have h3 := length_of_bracketed? _hb
    have h4 := length_head?_splitTopLevel _hh
    omega
  · have h1 := length_of_dropReference? _href
    have h2 := length_trim_le text
    have h3 := length_of_splitAngle _hs
    have h4 := length_of_dropFinal? _hd
    have h5 := weight_splitTopLevel_le ',' inner
    have h6 := weight_filter_le (fun arg ↦ !isLifetime arg) (splitTopLevel ',' inner)
    omega

/-- Reads every piece of a list as a type expression. -/
def parseAll? (pieces : List (List Char)) : Option (List TypeExpr) :=
  match pieces with
  | [] => some []
  | piece :: rest =>
    match parseChars? piece with
    | none => none
    | some t => (parseAll? rest).map (t :: ·)
termination_by weight pieces
decreasing_by
  · simp only [weight]
    omega
  · simp only [weight]
    omega

end

/-- Reads a type expression from its usual notation. -/
def parse? (text : String) : Option TypeExpr :=
  parseChars? text.toList

end ApiAtlas.TypeExpr
