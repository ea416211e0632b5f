import TypedTemplate.Console.Grid
import TypedTemplate.Console.Markup

/-! Printing to a console. -/
namespace TypedTemplate.Console

/-- Something to print, in markup. -/
inductive Part where
  | line (markup : String)
  /-- Lines of which the first that cannot be printed ends the rest, without notice. -/
  | excerpt (markups : List String)
  /-- Rows of two cells that line up. -/
  | table (rows : List (String × String))

/-- A stretch of a line, with the codes around it. -/
structure Stretch where
  opening : List Char
  text : List Char
  ending : List Char

def Stretch.bare (text : List Char) : Stretch := ⟨[], text, []⟩

abbrev Output := List Stretch

def Output.text (o : Output) : List Char := o.flatMap Stretch.text

def Output.sent (o : Output) : List Char := o.flatMap fun s => s.opening ++ s.text ++ s.ending

structure Painter where
  paint : Part → List (List Char) → List Output
  text_paint : ∀ p lines, (paint p lines).map Output.text = lines

def bareLines (lines : List (List Char)) : List Output := lines.map fun l => [.bare l]

def Painter.colourless : Painter where
  paint _ := bareLines
  text_paint _ lines := by simp [bareLines, Output.text, Stretch.bare, Function.comp_def]

structure Terminal where
  interactive : Bool
  dumb : Bool
  painter : Painter

def Terminal.painter? (t : Terminal) (forced : Option Bool) : Option Painter :=
  if forced.getD t.interactive && !t.dumb then some t.painter else none

def painted (painter : Option Painter) (p : Part) (lines : List (List Char)) : List Output :=
  match painter with
  | some q => q.paint p lines
  | none => bareLines lines

def excerptLines (limit : Nat) : List String → List (Part × List (List Char))
  | [] => []
  | m :: ms =>
    match plain m.toList with
    | .ok s => (.line m, wrap limit s) :: excerptLines limit ms
    | .error _ => []

/-- The lines that a part prints. -/
def Part.lines (limit : Nat) : Part → Except MarkupError (List (Part × List (List Char)))
  | .line markup => do
    let s ← plain markup.toList
    pure [(.line markup, wrap limit s)]
  | .excerpt markups => .ok (excerptLines limit markups)
  | .table rows => do
    let cells ← rows.mapM fun (a, b) => do pure (← plain a.toList, ← plain b.toList)
    pure [(.table rows, layOut limit cells)]

def endedLines (painter : Option Painter) (blocks : List (Part × List (List Char))) : Output :=
  blocks.flatMap fun b => (painted painter b.1 b.2).flatMap (· ++ [.bare ['\n']])

/-- What parts print, and the error that ended the printing early. -/
def display (painter : Option Painter) (limit : Nat) : List Part → Output × Option MarkupError
  | [] => ([], none)
  | p :: ps =>
    match p.lines limit with
    | .ok blocks =>
      let (out, e) := display painter limit ps
      (endedLines painter blocks ++ out, e)
    | .error e => ([], some e)

end TypedTemplate.Console
