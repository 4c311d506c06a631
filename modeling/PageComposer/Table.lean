import PageComposer.Number.Binary64
import PageComposer.Text.Wrap

/-!
# Tables

A table drawn with lines around and between its columns. A column is as wide as its widest cell and a
blank on either side; where that is too much for the screen, the widest columns give way and their cells
are wrapped. The line below the head is a heavy one.
-/

namespace PageComposer

structure Table where
  head : List Text
  rows : List (List Text)

/-- The characters of a line between rows: at its left end, inside a cell, between columns, at its right
end. -/
structure TableLine where
  left : Char
  inside : Char
  between : Char
  right : Char

namespace Table

def topLine : TableLine := ⟨'┏', '━', '┳', '┓'⟩

def headLine : TableLine := ⟨'┡', '━', '╇', '┩'⟩

def bottomLine : TableLine := ⟨'└', '─', '┴', '┘'⟩

/-! ## Widths -/

def screenWidth : Nat := 200

def lineEndRanges : List (Nat × Nat) := [(0x0A, 0x0D), (0x1C, 0x1E), (0x85, 0x85), (0x2028, 0x2029)]

def spread (s : Text) : Nat :=
  let lines := (s.map fun c => if Text.inRanges lineEndRanges c.toNat then '\n' else c).splitOn '\n'
  (lines.map Text.width).foldl max 0

def neededWidths (t : Table) : List Nat :=
  let cellWidths (row : List Text) := row.map fun cell => spread cell + 2
  t.rows.foldl (fun widths row => List.zipWith max widths (cellWidths row)) (cellWidths t.head)

/-- Takes the same from each of the widest columns, `excess` together and no more than `most` from one;
`takers` is their number. -/
def reduceWidest (widest most : Nat) : (excess takers : Nat) → List Nat → List Nat
  | _, _, [] => []
  | excess, takers, w :: rest =>
    if w = widest then
      let share := min most (Binary64.roundQuotient excess takers)
      (w - share) :: reduceWidest widest most (excess - share) (takers - 1) rest
    else w :: reduceWidest widest most excess takers rest

/-- Narrows columns to a sum: each round brings the widest ones down to the next widest. -/
def narrow (room : Nat) : Nat → List Nat → List Nat
  | 0, widths => widths
  | rounds + 1, widths =>
    if widths.sum ≤ room then widths
    else
      let excess := widths.sum - room
      let widest := widths.foldl max 0
      let next := (widths.filter (· != widest)).foldl max 0
      narrow room rounds
        (reduceWidest widest (min excess (widest - next)) excess (widths.count widest) widths)

/-- The width of each column with its blanks. A round either is the last or makes two widths equal. -/
def widths (t : Table) : List Nat :=
  let needed := t.neededWidths
  narrow (screenWidth - (needed.length + 1)) (needed.length + 1) needed

/-! ## Rows -/

def ruleText (line : TableLine) (widths : List Nat) : Text :=
  line.left :: Text.join [line.between] (widths.map fun w => List.replicate w line.inside) ++
    [line.right, '\n']

def cellLines (width : Nat) (cell : Text) : List Text :=
  (Text.wrap (width - 2) cell).map fun line => ' ' :: line ++ [' ']

def rowText (bar : Char) (widths : List Nat) (row : List Text) : Text :=
  let cells := List.zipWith (fun width cell => (width, cellLines width cell)) widths row
  let height := (cells.map (·.2.length)).foldl max 0
  (List.range height).flatMap fun n =>
    let parts := cells.map fun (width, lines) => lines.getD n (List.replicate width ' ')
    bar :: Text.join [bar] parts ++ [bar, '\n']

def draw (t : Table) : Text :=
  ruleText topLine t.widths ++ rowText '┃' t.widths t.head ++ ruleText headLine t.widths ++
    t.rows.flatMap (rowText '│' t.widths) ++ ruleText bottomLine t.widths

end Table
end PageComposer
