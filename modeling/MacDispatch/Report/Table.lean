import MacDispatch.Text.Columns

/-! # Tables

Tables drawn with lines between all rows. A cell may hold several lines; a column is as wide as
its widest line, and cells fill up on the right. -/

namespace MacDispatch

/-- A table: its headings, and rows with as many cells. -/
structure Table where
  headings : List String
  rows : List (List String)

namespace Table

def lines (cell : String) : List String := cell.splitOn "\n"

private def width (cell : String) : Nat := ((lines cell).map Text.columns).foldl max 0

def widths (table : Table) : List Nat :=
  table.rows.foldl (fun ws row => ws.zipWith max (row.map width)) (table.headings.map width)

private def repeated (c : Char) (n : Nat) : String := String.ofList (List.replicate n c)

private def border (widths : List Nat) : String :=
  "+" ++ String.join (widths.map fun w => repeated '-' (w + 2) ++ "+")

private def drawRow (widths : List Nat) (row : List String) : List String :=
  let cells := row.map lines
  let height := (cells.map List.length).foldl max 0
  (List.range height).map fun i =>
    "|" ++ String.join ((widths.zip cells).map fun (w, cell) =>
      let line := (cell[i]?).getD ""
      " " ++ line ++ repeated ' ' (w - Text.columns line) ++ " |")

/-- The table as text, without a line break at its end. -/
def draw (table : Table) : String :=
  let widths := table.widths
  let rows := (table.headings :: table.rows).map (drawRow widths)
  "\n".intercalate (border widths :: rows.flatMap fun row => row ++ [border widths])

private theorem head?_toList_border (widths : List Nat) :
    (border widths).toList.head? = some '+' := by
  simp [border]

/-- A table begins with the corner of its border. -/
theorem head?_toList_draw (table : Table) : table.draw.toList.head? = some '+' := by
  rw [draw, String.toList_intercalate, List.map_cons, List.intercalate]
  generalize List.map String.toList _ = rest
  have hborder := head?_toList_border table.widths
  cases rest <;> simp [hborder]

end Table

end MacDispatch
