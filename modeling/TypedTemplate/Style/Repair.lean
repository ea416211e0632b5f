import TypedTemplate.Style.Lint

/-! Repairing findings about unions. -/
namespace TypedTemplate.Style

def proposal? (i : Issue) : Option (List Char) :=
  if Text.occurs "Use PEP 604".toList i.message.toList then i.hint.bind fun h =>
    Text.after? "Use: ".toList h.toList
  else none

def repairLine (new line : List Char) : Option (List Char) :=
  (oldUnion? line).map fun old => Text.replace old new line

/-- A content after the repair of one finding. Where a line is changed, all lines end alike and the
last one has no end. -/
def repairOne (content : List Char) (i : Issue) : List Char :=
  match proposal? i with
  | none => content
  | some new =>
    let ls := Text.lines content
    if i.line ≤ 0 then content
    else
      let k := (i.line - 1).toNat
      match (ls[k]?).bind (repairLine new) with
      | some line => Text.unlines (ls.set k line)
      | none => content

def repair (content : String) (issues : List Issue) : String :=
  String.ofList (issues.foldl repairOne content.toList)

end TypedTemplate.Style
