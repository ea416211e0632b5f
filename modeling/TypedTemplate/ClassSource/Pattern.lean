import TypedTemplate.ClassSource.ExprGrammar

/-! Patterns of `case` clauses. They are read only to know where they end. -/
namespace TypedTemplate.ClassSource.Pattern
open Reader

def capture : Reader Unit := do
  if (← name) == "_" then failure
  if ← atAny [".", "(", "="] then failure

def number : Reader Number := do
  match ← peek with
  | some (.number n) =>
    skip
    return n
  | _ => failure

def isImaginary : Number → Bool
  | .imaginary _ => true
  | _ => false

def signedNumber : Reader Unit := do
  let _ ← take "-"
  let n ← number
  if (← takeAny ["+", "-"]).isSome then
    let m ← number
    if isImaginary n || !isImaginary m then failure

def atNumber : Reader Bool := do
  match ← get with
  | .number _ :: _ => return true
  | .sign "-" :: _ => return true
  | _ => return false

def constant (nest : Nesting) : Reader Unit := do
  match ← peek with
  | some (.text _) => discard nest.texts
  | _ =>
    if ← atNumber then signedNumber
    else if (← takeAny ["None", "True", "False"]).isNone then failure

/-- The rest of a dotted name, and whether there is any. -/
def dotted : Nat → Reader Bool
  | 0 => failure
  | n + 1 => do
    if ← take "." then
      discard name
      discard (dotted n)
      return true
    return false

def key (nest : Nesting) : Reader Unit := do
  match ← peek with
  | some (.name _) =>
    skip
    unless ← dotted nest.bound do failure
  | _ => constant nest

structure Patterns where
  nest : Nesting
  pattern : Reader Unit

namespace Patterns

variable (ps : Patterns)

def starOr : Reader Bool := do
  if ← take "*" then
    discard name
    if ← atAny [".", "(", "="] then failure
    return true
  ps.pattern
  return false

def mapping : Reader Unit := do
  expect "\x7b"
  let item : Reader Bool := do
    if ← take "**" then
      capture
      return true
    key ps.nest
    expect ":"
    ps.pattern
    return false
  let items ← optional (commaList item ps.nest.bound)
  if (items.map (·.1)).any fun is => is.dropLast.any id then failure
  expect "\x7d"

/-- Patterns by position come before those by key. Behind the former an underscore is one more of
them, and no key. -/
def inOrder (keys : List (Option String)) : Bool :=
  let keyed := keys.dropWhile Option.isNone
  keyed.all Option.isSome && (keyed.length == keys.length || keyed.head? != some (some "_"))

/-- The patterns of a class, each with its key if it has one. -/
def classItems : Reader Unit := do
  expect "("
  let item : Reader (Option String) := do
    if ← atNameThen "=" then
      let key ← name
      expect "="
      ps.pattern
      return some key
    ps.pattern
    return none
  let items ← optional (commaList item ps.nest.bound)
  unless (items.map (·.1)).all inOrder do failure
  expect ")"

def group : Reader Unit := do
  expect "("
  if ← take ")" then return
  match ← commaList ps.starOr ps.nest.bound with
  | ([true], false) => failure
  | _ => expect ")"

def list : Reader Unit := do
  expect "["
  discard (optional (commaList ps.starOr ps.nest.bound))
  expect "]"

def closed : Reader Unit := do
  match ← peek with
  | some (.name ⟨"_", _⟩) => skip
  | some (.name _) =>
    skip
    discard (dotted ps.nest.bound)
    if ← atSign "(" then ps.classItems
    else if ← atSign "=" then failure
  | some (.sign "(") => ps.group
  | some (.sign "[") => ps.list
  | some (.sign "\x7b") => ps.mapping
  | _ => constant ps.nest

/-- Alternatives, and a name for what matched. -/
def pattern_ : Reader Unit := do
  ps.closed
  let next : Reader Unit := do
    expect "|"
    ps.closed
  discard (many next ps.nest.bound)
  if ← take "as" then capture

/-- A pattern, or a row of patterns without brackets. -/
def top : Reader Unit := do
  match ← commaList ps.starOr ps.nest.bound with
  | ([true], false) => failure
  | _ => return

end Patterns

def patterns (nest : Nesting) : Nat → Patterns
  | 0 => ⟨nest, failure⟩
  | n + 1 => ⟨nest, (patterns nest n).pattern_⟩

end TypedTemplate.ClassSource.Pattern
