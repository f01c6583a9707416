import ApiAtlas.Text.Blank

/-!
# Splitting outside brackets

A text is cut at a separator wherever the bracket depth is zero. What counts as a bracket is given
by the change of depth at each character; a bracket itself never separates, and the depth may fall
below zero, where nothing separates either.
-/

namespace ApiAtlas.Text

/-- The pieces of a text between the separators at depth zero; there is always at least one. -/
def piecesFrom (change : Char → Int) (sep : Char) (depth : Int) : List Char → List (List Char)
  | [] => [[]]
  | c :: rest =>
    if change c == 0 && c == sep && depth == 0 then [] :: piecesFrom change sep depth rest
    else
      match piecesFrom change sep (depth + change c) rest with
      | piece :: pieces => (c :: piece) :: pieces
      | [] => [[c]]

/-- The trimmed pieces of a text between the separators at depth zero. -/
def trimmedPieces (change : Char → Int) (sep : Char) (cs : List Char) : List (List Char) :=
  (piecesFrom change sep 0 cs).map trim

/-- The number of characters in a list of pieces, each piece counted with its separator. -/
def weight : List (List Char) → Nat
  | [] => 0
  | piece :: rest => piece.length + 1 + weight rest

theorem weight_piecesFrom (change : Char → Int) (sep : Char) (depth : Int) (cs : List Char) :
    weight (piecesFrom change sep depth cs) = cs.length + 1 := by
  induction cs generalizing depth with
  | nil => simp [piecesFrom, weight]
  | cons c rest ih =>
    unfold piecesFrom
    split
    · have h := ih depth
      simp only [weight, List.length_nil, List.length_cons] at h ⊢
      omega
    · have h := ih (depth + change c)
      split
      · next piece pieces heq =>
        rw [heq] at h
        simp only [weight, List.length_cons] at h ⊢
        omega
      · next heq =>
        rw [heq] at h
        simp [weight] at h

theorem weight_map_trim_le (pieces : List (List Char)) :
    weight (pieces.map trim) ≤ weight pieces := by
  induction pieces with
  | nil => simp [weight]
  | cons piece rest ih =>
    have h := length_trim_le piece
    simp only [weight, List.map_cons] at ih ⊢
    omega

theorem weight_trimmedPieces_le (change : Char → Int) (sep : Char) (cs : List Char) :
    weight (trimmedPieces change sep cs) ≤ cs.length + 1 := by
  have h := weight_map_trim_le (piecesFrom change sep 0 cs)
  rw [weight_piecesFrom] at h
  exact h

theorem weight_filter_le (p : List Char → Bool) (pieces : List (List Char)) :
    weight (pieces.filter p) ≤ weight pieces := by
  induction pieces with
  | nil => simp
  | cons piece rest ih =>
    rw [List.filter_cons]
    split
    · simp only [weight] at ih ⊢
      omega
    · simp only [weight] at ih ⊢
      omega

end ApiAtlas.Text
