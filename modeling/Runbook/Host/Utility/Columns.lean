/-!
# Columns

Texts side by side, in as many columns as a line has room for. The columns may be filled one after the
other, or line by line; between them are tabs and blanks.
-/

namespace Runbook.Host.Columns

/-- A text, and the number of columns that it takes. -/
structure Item where
  text : String
  width : Nat

/-- The least width of a column. -/
def leastWidth : Nat := 3

/-- The number of blanks between columns. -/
def gap : Nat := 2

/-- The column of the item with an index, if there are so many columns. -/
def columnOf (byColumns : Bool) (count columns index : Nat) : Nat :=
  if byColumns then index / ((count + columns - 1) / columns) else index % columns

/-- The widths of columns. -/
def widths (byColumns : Bool) (items : List Item) (columns : Nat) : List Nat :=
  let placed := items.zipIdx.map fun (item, index) =>
    let column := columnOf byColumns items.length columns index
    (column, item.width + if column + 1 = columns then 0 else gap)
  (List.range columns).map fun column =>
    ((placed.filter (·.1 == column)).map (·.2)).foldl max leastWidth

/-- The widths of as many columns as there is room for. The number bounds that of the columns. -/
def fitting (byColumns : Bool) (lineWidth : Nat) (items : List Item) : Nat → List Nat
  | 0 => widths byColumns items 1
  | columns + 1 =>
    let found := widths byColumns items (columns + 1)
    if columns = 0 || found.foldl (· + ·) 0 < lineWidth then found
    else fitting byColumns lineWidth items columns

/-- Blanks from a column to another one, with tabs of a width where they fit. The first argument bounds
their number. -/
def indent (tab : Nat) : Nat → Nat → Nat → String
  | 0, _, _ => ""
  | steps + 1, from', to' =>
    if to' ≤ from' then ""
    else if tab != 0 && (from' + 1) / tab < to' / tab then
      "\t" ++ indent tab steps (from' + tab - from' % tab) to'
    else " " ++ indent tab steps (from' + 1) to'

/-- The texts of a line with what is between them; `column` is where the line has come to. -/
def line (tab : Nat) : Nat → List Item → List Nat → String
  | _, [], _ => ""
  | _, [item], _ => item.text
  | column, item :: rest, widths =>
    let width := widths.headD leastWidth
    item.text ++ indent tab (width + 1) (column + item.width) (column + width) ++
      line tab (column + width) rest widths.tail

/-- The items of a list with a distance between them, from an index on. -/
def every (distance : Nat) (items : List Item) (start : Nat) : List Item :=
  (items.zipIdx.filter fun (_, index) => index % distance = start).map (·.1)

/-- The items in lines. -/
def lines (byColumns : Bool) (tab lineWidth : Nat) (items : List Item) : List String :=
  let most := lineWidth / leastWidth + if lineWidth % leastWidth = 0 then 0 else 1
  let most := if 0 < most && most < items.length then most else items.length
  let widths := fitting byColumns lineWidth items most
  let count := max widths.length 1
  let rows := (items.length + count - 1) / count
  if byColumns then
    (List.range rows).map fun row => line tab 0 (every rows items row) widths
  else
    (List.range rows).map fun row => line tab 0 ((items.drop (row * count)).take count) widths

/-- The items one after the other with a comma or another sign between them; a line ends where the next
item would be too much for it. -/
def separated (sign : String) (newline : String) (lineWidth : Option Nat) : Nat → List Item → String
  | _, [] => ""
  | _, [item] => item.text
  | column, item :: next :: rest =>
    let column := column + item.width
    if lineWidth.all fun width => column + next.width + gap < width then
      item.text ++ sign ++ " " ++ separated sign newline lineWidth (column + gap) (next :: rest)
    else item.text ++ sign ++ newline ++ separated sign newline lineWidth 0 (next :: rest)

end Runbook.Host.Columns
