import MailFilter.Shell.Screen.Layout

/-!
Boxes drawn with lines: a panel with a title in its upper edge, and a grid of cells under a head.
-/

namespace MailFilter.Screen

open Text (columns)

def bar (c : Char) (n : Nat) : List Char := List.replicate n c

def panel (title line : List Char) : List (List Char) :=
  let inner := max (columns line) (columns title + 2) + 2
  let heading := ' ' :: title ++ [' ']
  let spare := inner - 2 - columns heading
  let top := bar '─' (spare / 2) ++ heading ++ bar '─' (spare - spare / 2)
  ['╭' :: '─' :: top ++ ['─', '╮'],
    '│' :: ' ' :: Text.padRight (inner - 2) line ++ [' ', '│'],
    '╰' :: bar '─' inner ++ ['╯']]

structure Edges where
  left : Char
  fill : Char
  middle : Char
  right : Char
  deriving DecidableEq, Repr

def joinCells (e : Edges) (cells : List (List Char)) : List Char :=
  e.left :: (cells.intersperse [e.middle]).flatten ++ [e.right]

def rule (e : Edges) (widths : List Nat) : List Char :=
  joinCells e (widths.map fun w => bar e.fill (w + 2))

/-- The lines of a row: as many as its highest cell has, the others with empty lines below. -/
def rowLines (e : Edges) (widths : List Nat) (row : List (List Char)) : List (List Char) :=
  let cells := (widths.zip row).map fun (w, s) => (w, fitText w s)
  let height := (cells.map fun (_, lines) => lines.length).foldl max 1
  (List.range height).map fun i =>
    joinCells e (cells.map fun (w, lines) => ' ' :: (lines[i]?).getD (bar ' ' w) ++ [' '])

/-- A grid with a title above, a head, and rows. A column is as wide as its widest cell. -/
structure Grid where
  title : List Char
  head : List (List Char)
  rows : List (List (List Char))
  deriving DecidableEq, Repr

def Grid.widths (g : Grid) : List Nat :=
  g.rows.foldl (fun widths row => (widths.zip row).map fun (w, s) => max w (measure s))
    (g.head.map measure)

def Grid.lines (g : Grid) : List (List Char) :=
  let widths := g.widths
  let top := rule ⟨'┏', '━', '┳', '┓'⟩ widths
  [center (columns top) g.title, top] ++
    rowLines ⟨'┃', ' ', '┃', '┃'⟩ widths g.head ++
    [rule ⟨'┡', '━', '╇', '┩'⟩ widths] ++
    g.rows.flatMap (rowLines ⟨'│', ' ', '│', '│'⟩ widths) ++
    [rule ⟨'└', '─', '┴', '┘'⟩ widths]

end MailFilter.Screen
