import TypedTemplate.Text.Bracket

/-! Unions spelled `Optional[…]` or `Union[…]`, found in a line and spelled with bars. -/
namespace TypedTemplate.Style

def optionalHead : List Char := "Optional[".toList

def unionHead : List Char := "Union[".toList

/-- The first place where a text reads `head`, one or more characters and a closing bracket. -/
def bracketed? (head : List Char) : List Char → Option (List Char)
  | [] => none
  | c :: s =>
    match Text.after? head (c :: s) with
    | none => bracketed? head s
    | some rest =>
      let (inner, rest) := rest.span (· != ']')
      if inner.isEmpty || rest.isEmpty then bracketed? head s else some (head ++ inner ++ [']'])

def oldUnion? (line : List Char) : Option (List Char) :=
  (bracketed? optionalHead line).or (bracketed? unionHead line)

/-- The same union with bars. What is no such union stays. -/
def withBars (s : List Char) : List Char :=
  match Text.after? optionalHead s with
  | some rest => rest.dropLast ++ " | None".toList
  | none =>
    match Text.after? unionHead s with
    | some rest => " | ".toList.intercalate (Text.splitTrimmed rest.dropLast)
    | none => s

end TypedTemplate.Style
