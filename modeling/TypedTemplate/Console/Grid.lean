import TypedTemplate.Console.Wrap

/-! Two columns of cells. They are as wide as their widest cells, and narrower where the console is
too narrow. -/
namespace TypedTemplate.Console

def roundQuotient (n d : Nat) : Nat :=
  let q := n / d
  let twice := 2 * (n % d)
  if twice < d || (twice == d && q % 2 == 0) then q else q + 1

/-- A column that may become narrower, in which proportion and by how much at most. -/
structure Shrink where
  ratio : Nat
  most : Nat
  size : Nat

namespace Shrink

/-- Sizes after some columns have been taken away, by their ratios and one after the other. -/
def shareFrom : (excess ratios : Nat) → List Shrink → List Nat
  | _, _, [] => []
  | excess, ratios, c :: rest =>
    if c.ratio > 0 && ratios > 0 then
      let part := min c.most (roundQuotient (c.ratio * excess) ratios)
      (c.size - part) :: shareFrom (excess - part) (ratios - c.ratio) rest
    else c.size :: shareFrom excess ratios rest

def share (excess : Nat) (cs : List Shrink) : List Nat :=
  let cs := cs.map fun c => if c.most = 0 then { c with ratio := 0 } else c
  shareFrom excess ((cs.map (·.ratio)).foldl (· + ·) 0) cs

end Shrink

def total (sizes : List Nat) : Nat := sizes.foldl (· + ·) 0

/-- The widest columns are made narrower, down to the next widest, until all fit. Each step takes a
column away. -/
def collapse (limit : Nat) : Nat → List Nat → List Nat
  | 0, sizes => sizes
  | n + 1, sizes =>
    let excess := total sizes - limit
    let widest := sizes.foldl max 0
    let next := (sizes.filter (· != widest)).foldl max 0
    if excess = 0 || widest = 0 then sizes
    else
      let most := min excess (widest - next)
      collapse limit n
        (Shrink.share excess (sizes.map fun s => ⟨if s = widest then 1 else 0, most, s⟩))

def margin : List Char := [' ', ' ']

def margins : Nat := 2 * margin.length

def columnSize (limit : Nat) (cells : List (List Char)) : Nat :=
  (cells.map fun c => min (width c + margins) limit).foldl max 0

/-- The sizes of columns on a console of `limit` columns. -/
def columnSizes (limit : Nat) (columns : List (List (List Char))) : List Nat :=
  let sizes := columns.map (columnSize limit)
  if total sizes ≤ limit then sizes
  else
    let sizes := collapse limit (total sizes) sizes
    let sizes := if total sizes ≤ limit then sizes
      else Shrink.share (total sizes - limit) (sizes.map fun s => ⟨1, s, s⟩)
    (sizes.zip columns).map fun (size, cells) => columnSize size cells

def padEnd (size : Nat) (s : List Char) : List Char := s ++ List.replicate (size - width s) ' '

def shorten (limit : Nat) (line : List Char) : List Char :=
  if width line > limit then crop (limit - 1) line ++ ['…'] else line

def cellText (limit : Nat) (line : List Char) : List (List Char) :=
  let line := expandTabs line
  let lines :=
    match words line with
    | [] => [line]
    | ws => (ws.foldl (Filling.addWhole limit) .start).lines.reverse
  lines.map fun l => shorten limit (dropExcess limit l)

def cellLines (size : Nat) (cell : List Char) : List (List Char) :=
  let inner := size - margins
  if inner = 0 then []
  else ((Text.pieces ['\n'] cell).flatMap (cellText inner)).map fun l =>
    margin ++ padEnd inner l ++ margin

def rowLines (sizes : List Nat) (cells : List (List Char)) : List (List Char) :=
  let columns := (sizes.zip cells).map fun (size, cell) => (size, cellLines size cell)
  let height := (columns.map fun c => c.2.length).foldl max 1
  (List.range height).map fun n => columns.flatMap fun (size, lines) => padEnd size
    (lines.getD n [])

def layOut (limit : Nat) (rows : List (List Char × List Char)) : List (List Char) :=
  let sizes := columnSizes limit [rows.map (·.1), rows.map (·.2)]
  rows.flatMap fun (a, b) => rowLines sizes [a, b]

end TypedTemplate.Console
