import TypedTemplate.ClassSource.Token

/-! Reading the tokens of a class source one by one, with a way back. -/
namespace TypedTemplate.ClassSource

/-- What is done at most once at a place in the search for a likely cause. -/
inductive Check where
  | expression
  | primary
  | named
  | group
  | dict (alert : Bool)
  | comprehension
  | key
  | call
  deriving DecidableEq

abbrev Checked := List (Check × Nat)

abbrev Reader := StateT (List Token) (OptionT (StateT Checked (Except Fault)))

namespace Reader

def outcome {α : Type} (r : Reader α) (tokens : List Token) :
    Except Fault (Option (α × List Token)) :=
  ((r.run tokens).run.run []).map (·.1)

def refuse {α : Type} (cause : Fault) : Reader α := fun _ => OptionT.mk fun _ => .error cause

/-- The token that comes next. A source that cannot be cut any further there is refused. -/
def peek : Reader (Option Token) := do
  match (← get).head? with
  | some (.broken cause) => refuse cause
  | t => return t

def ahead {α : Type} (r : Reader α) : Reader (Option α) := do
  let tokens ← get
  let a ← optional r
  set tokens
  return a

/-- Whether a check has not been made here before. It counts as made from now on. -/
def fresh (c : Check) : Reader Bool := do
  let here := (c, (← get).length)
  let checked : Checked ← getThe Checked
  if checked.contains here then return false
  set (here :: checked)
  return true

def once (c : Check) (r : Reader Unit) : Reader Unit := do
  if ← fresh c then r

def atSign (s : String) : Reader Bool := do return (← peek).any (·.isSign s)

def atAny (ss : List String) : Reader Bool := do
  let t ← peek
  return ss.any fun s => t.any (·.isSign s)

def skip : Reader Unit := modify List.tail

/-- Takes a sign or keyword if it comes next. -/
def take (s : String) : Reader Bool := do
  if ← atSign s then
    skip
    return true
  return false

def expect (s : String) : Reader Unit := do
  unless ← take s do failure

/-- Takes one of some signs. -/
def takeAny (ss : List String) : Reader (Option String) := do
  match ← peek with
  | some (.sign s) =>
    if ss.contains s then
      skip
      return some s
    return none
  | _ => return none

def plainName : Reader PlainName := do
  match ← peek with
  | some (.name n) =>
    skip
    return n
  | _ => failure

def name : Reader String := do return (← plainName).text

def word (w : String) : Reader Unit := do
  unless (← name) == w do failure

def lineEnd : Reader Unit := do
  match ← peek with
  | some .lineEnd => skip
  | _ => failure

def indent : Reader Unit := do
  match ← peek with
  | some .indent => skip
  | _ => failure

def dedent : Reader Unit := do
  match ← peek with
  | some .dedent => skip
  | _ => failure

def atNameThen (s : String) : Reader Bool := do
  match ← get with
  | .name _ :: .broken cause :: _ => refuse cause
  | .name _ :: t :: _ => return t.isSign s
  | _ => return false

def many {α : Type} (r : Reader α) : Nat → Reader (List α)
  | 0 => pure []
  | n + 1 => do
    match ← optional r with
    | some a => return a :: (← many r n)
    | none => return []

def oneOrMore {α : Type} (r : Reader α) (n : Nat) : Reader (List α) := do
  match ← many r n with
  | [] => failure
  | as => return as

/-- Items with commas between them, and whether a comma stands behind the last. -/
def commaList {α : Type} (r : Reader α) : Nat → Reader (List α × Bool)
  | 0 => failure
  | n + 1 => do
    let a ← r
    if ← take "," then
      match ← optional (commaList r n) with
      | some (rest, trailing) => return (a :: rest, trailing)
      | none => return ([a], true)
    return ([a], false)

end Reader

end TypedTemplate.ClassSource
