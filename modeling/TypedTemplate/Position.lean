import TypedTemplate.Text.Bracket

/-! Lines and columns, and the text that names a place in a file. -/
namespace TypedTemplate

structure Position where
  line : Int
  col : Int

namespace Position

def start : Position := ⟨1, 1⟩

def advance (p : Position) (c : Char) : Position :=
  if c = '\n' then ⟨p.line + 1, 1⟩ else ⟨p.line, p.col + 1⟩

end Position

/-- A message behind its place. A column is written only beside a line. -/
def locate (filename : String) (line col : Option Int) (detail : String) : String :=
  match line, col with
  | none, _ => filename ++ ": " ++ detail
  | some l, none => filename ++ ":" ++ toString l ++ ": " ++ detail
  | some l, some c => filename ++ ":" ++ toString l ++ ":" ++ toString c ++ ": " ++ detail

def unknownFile : String := "<unknown>"

end TypedTemplate
