/-!
# Tables of code points

A character class beyond the ASCII range is a table of rows. A row stands for the code points from
its first to its last member, taken in steps, so the alternating capitals and small letters of an
alphabet fill one row of step two.
-/

namespace ApiAtlas.Text.CodeTable

/-- A row `(first, last, step)` holds `first`, `first + step`, and so on up to `last`. -/
abbrev Row := Nat × Nat × Nat

/-- Whether a code point lies in a row. -/
def Row.holds (row : Row) (code : Nat) : Bool :=
  row.1 ≤ code && code ≤ row.2.1 && (code - row.1) % row.2.2 == 0

/-- Whether some row of a table holds a code point. -/
def holds (table : List Row) (code : Nat) : Bool :=
  table.any fun row ↦ row.holds code

/-- A row `(first, last, step, shift)` moves the code points of `(first, last, step)` by `shift`. -/
abbrev ShiftRow := Nat × Nat × Nat × Int

/-- The image of a code point under the first row that holds it. -/
def shift? (table : List ShiftRow) (code : Nat) : Option Nat :=
  (table.find? fun row ↦ Row.holds (row.1, row.2.1, row.2.2.1) code).map fun row ↦
    ((code : Int) + row.2.2.2).toNat

end ApiAtlas.Text.CodeTable
