/-!
# Blanks

The characters of the Unicode property White_Space, and texts with the blanks at their ends removed.
-/

namespace ApiAtlas.Text

/-- Whether a character is white space. -/
def isBlank (c : Char) : Bool :=
  let n := c.toNat
  (0x09 ≤ n && n ≤ 0x0D) || n == 0x20 || n == 0x85 || n == 0xA0 || n == 0x1680 ||
    (0x2000 ≤ n && n ≤ 0x200A) || n == 0x2028 || n == 0x2029 || n == 0x202F || n == 0x205F ||
    n == 0x3000

/-- Drops the elements at the end of a list that satisfy a test. -/
def dropEndWhile {α : Type} (p : α → Bool) : List α → List α
  | [] => []
  | a :: rest =>
    match dropEndWhile p rest with
    | [] => if p a then [] else [a]
    | kept => a :: kept

/-- Drops the blanks at the start of a text. -/
def trimStart (cs : List Char) : List Char :=
  cs.dropWhile isBlank

/-- Drops the blanks at both ends of a text. -/
def trim (cs : List Char) : List Char :=
  dropEndWhile isBlank (trimStart cs)

/-- A string without the blanks at its ends. -/
def trimmed (s : String) : String :=
  String.ofList (trim s.toList)

theorem length_dropEndWhile_le {α : Type} (p : α → Bool) (l : List α) :
    (dropEndWhile p l).length ≤ l.length := by
  induction l with
  | nil => simp [dropEndWhile]
  | cons a rest ih =>
    unfold dropEndWhile
    split
    · split <;> simp
    · simpa using ih

theorem length_trimStart_le (cs : List Char) : (trimStart cs).length ≤ cs.length := by
  unfold trimStart
  exact (List.dropWhile_suffix isBlank).length_le

theorem length_trim_le (cs : List Char) : (trim cs).length ≤ cs.length :=
  Nat.le_trans (length_dropEndWhile_le isBlank _) (length_trimStart_le cs)

end ApiAtlas.Text
