import TypedTemplate.Template.Node

/-! Reading tokens one by one. A scanning fault comes up only when the reader reaches it. -/
namespace TypedTemplate.Template

structure Stream where
  current : Token
  rest : List Token
  failure : Option Failure

abbrev Reader := StateT Stream (Except Failure)

namespace Reader

def fail {α : Type} (line : Nat) (fault : Fault) : Reader α := throw ⟨line, fault⟩

def current : Reader Token := do return (← get).current

def line : Reader Nat := do return (← current).line

def failHere {α : Type} (fault : Fault) : Reader α := do fail (← line) fault

/-- The token after the current one. The end of the template stands on the line of the last
token. -/
def following (s : Stream) : Except Failure Token :=
  match s.rest, s.failure with
  | t :: _, _ => .ok t
  | [], some f => .error f
  | [], none => .ok ⟨s.current.line, .endOfTemplate⟩

def look : Reader Token := do following (← get)

def advance : Reader Token := do
  let s ← get
  if s.current.kind = .endOfTemplate then return s.current
  let t ← following s
  set { s with current := t, rest := s.rest.tail }
  return s.current

def atKind (k : TokenKind) : Reader Bool := do return (← current).kind = k

def atOp (op : Operator) : Reader Bool := atKind (.operator op)

def atName (s : String) : Reader Bool := atKind (.name s)

def skipIf (k : TokenKind) : Reader Bool := do
  if ← atKind k then
    let _ ← advance
    return true
  return false

def refuse {α : Type} (want : String) : Reader α := do
  let t ← current
  if t.kind = .endOfTemplate then fail t.line (.endedBefore want)
  else fail t.line (.expected want t.kind.describe)

def expect (k : TokenKind) : Reader Token := do
  if ← atKind k then advance else refuse k.describe

def expectOp (op : Operator) : Reader Token := expect (.operator op)

def expectWord (s : String) : Reader Token := expect (.name s)

/-- Any name, with its line. -/
def expectName : Reader (Nat × String) := do
  let t ← current
  match t.kind with
  | .name s =>
    let _ ← advance
    return (t.line, s)
  | _ => refuse "name"

end Reader

def Stream.start (tokens : List Token) (failure : Option Failure) : Except Failure Stream := do
  let s : Stream := ⟨⟨1, .data ""⟩, tokens, failure⟩
  let t ← Reader.following s
  return { s with current := t, rest := tokens.tail }

end TypedTemplate.Template
