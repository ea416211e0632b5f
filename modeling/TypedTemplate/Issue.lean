import TypedTemplate.Position

/-! Findings about a template. -/
namespace TypedTemplate

/-- Two levels are known. A severity that settings give is kept as it stands there, be it no word at
all. -/
inductive Severity where
  | error
  | warning
  | other (text : String)
  | truth (value : Bool)
  | number (n : Int)
  | unset
deriving DecidableEq

namespace Severity

def text : Severity → String
  | error => "error"
  | warning => "warning"
  | other t => t
  | truth true => "True"
  | truth false => "False"
  | number n => toString n
  | unset => "None"

def ofText (s : String) : Severity :=
  if s == "error" then error else if s == "warning" then warning else other s

end Severity

structure Issue where
  severity : Severity
  message : String
  filename : String
  line : Int
  col : Int
  endCol : Option Int
  hint : Option String

namespace Issue

def place (i : Issue) : String :=
  i.filename ++ ":" ++ toString i.line ++ if i.col = 0 then "" else ":" ++ toString i.col

def render (i : Issue) : String :=
  i.place ++ ": " ++ i.severity.text ++ ": " ++ i.message ++
    match i.hint with
    | some h => if h.isEmpty then "" else "\nHint: " ++ h
    | none => ""

end Issue

end TypedTemplate
