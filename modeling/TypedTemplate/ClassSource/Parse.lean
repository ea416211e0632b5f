import TypedTemplate.ClassSource.Pattern
import TypedTemplate.ClassSource.Stmt

/-! The grammar of statements. -/
namespace TypedTemplate.ClassSource
open Reader

/-- Readers of expressions, of patterns and of nested blocks. -/
structure Blocks where
  nest : Nesting
  pattern : Reader Unit
  statement : Reader (List Stmt)

namespace Blocks

variable (bs : Blocks)

def bound : Nat := bs.nest.bound

def dottedName : Reader String := do
  let first ← name
  let next : Reader String := do
    expect "."
    name
  return ".".intercalate (first :: (← many next bs.bound))

def rename : Reader (Option PlainName) := do
  if ← take "as" then some <$> plainName else return none

def importModules : Reader Stmt := do
  expect "import"
  let item : Reader Unit := do
    discard bs.dottedName
    discard rename
  match ← commaList item bs.bound with
  | (_, false) => return .other
  | _ => failure

def dots : Nat → Reader Nat
  | 0 => failure
  | n + 1 => do
    if ← take "." then return 1 + (← dots n)
    if ← take "..." then return 3 + (← dots n)
    return 0

def importedNames : Reader (List (PlainName × Option PlainName)) := do
  if ← take "*" then return [(⟨"*", by decide⟩, none)]
  let item : Reader (PlainName × Option PlainName) := do
    let n ← plainName
    return (n, ← rename)
  if ← take "(" then
    let (ns, _) ← commaList item bs.bound
    expect ")"
    return ns
  match ← commaList item bs.bound with
  | (ns, false) => return ns
  | _ => failure

def importFrom : Reader Stmt := do
  expect "from"
  let level ← dots bs.bound
  let source ← if level = 0 then some <$> bs.dottedName else optional bs.dottedName
  expect "import"
  return .importFrom source level (← bs.importedNames)

def nameList : Reader Stmt := do
  match ← commaList name bs.bound with
  | (_, false) => return .other
  | _ => failure

def assignSigns : List String :=
  ["+=", "-=", "*=", "@=", "/=", "%=", "&=", "|=", "^=", "<<=", ">>=", "**=", "//="]

/-- Values with equals signs between them; all but the last are targets. -/
def assignFrom : Nat → List Expr → Expr → Reader Stmt
  | 0, _, _ => failure
  | n + 1, targets, value => do
    if ← take "=" then
      unless value.isTarget do failure
      assignFrom n (targets ++ [value]) (← bs.nest.expressionsOrYield)
    else if targets.isEmpty then return .other
    else return .assign targets value

def expressionLine : Reader Stmt := do
  let first ← bs.nest.expressionsOrYield
  if ← take ":" then
    unless first.isPlace do failure
    let a ← bs.nest.expression
    let value ← if ← take "=" then some <$> bs.nest.expressionsOrYield else pure none
    return .annotated first a value
  else if (← takeAny assignSigns).isSome then
    unless first.isPlace do failure
    return .augmented first (← bs.nest.expressionsOrYield)
  else bs.assignFrom bs.bound [] first

def simple : Reader Stmt := do
  match ← peek with
  | some (.sign s) =>
    match s with
    | "pass" | "break" | "continue" =>
      skip
      return .other
    | "return" =>
      skip
      discard (optional bs.nest.expressions)
      return .other
    | "raise" =>
      skip
      if (← optional bs.nest.expression).isSome then
        if ← take "from" then discard bs.nest.expression
      return .other
    | "global" | "nonlocal" =>
      skip
      bs.nameList
    | "del" =>
      skip
      unless (← bs.nest.expressions).isErasable do failure
      return .other
    | "assert" =>
      skip
      discard bs.nest.expression
      if ← take "," then discard bs.nest.expression
      return .other
    | "import" => bs.importModules
    | "from" => bs.importFrom
    | _ => bs.expressionLine
  | _ => bs.expressionLine

/-- Simple statements on one line. -/
def simpleLine : Nat → Reader (List Stmt)
  | 0 => failure
  | n + 1 => do
    let s ← bs.simple
    if ← take ";" then
      match ← optional lineEnd with
      | some _ => return [s]
      | none => return s :: (← simpleLine n)
    lineEnd
    return [s]

def statements : Reader (List Stmt) := do
  match ← many bs.statement bs.bound with
  | [] => failure
  | ss => return ss.flatten

def body : Reader (List Stmt) := do
  expect ":"
  match ← optional lineEnd with
  | some _ =>
    indent
    let ss ← bs.statements
    dedent
    return ss
  | none => bs.simpleLine bs.bound

def elseBody : Reader (List Stmt) := do
  if ← take "else" then bs.body else return []

def branches : Nat → Reader Stmt
  | 0 => failure
  | n + 1 => do
    discard bs.nest.named
    let b ← bs.body
    if ← take "elif" then return .block (b ++ [← branches n])
    return .block (b ++ (← bs.elseBody))

def whileLoop : Reader Stmt := do
  expect "while"
  discard bs.nest.named
  let b ← bs.body
  return .block (b ++ (← bs.elseBody))

def forLoop : Reader Stmt := do
  expect "for"
  discard bs.nest.targets
  expect "in"
  discard bs.nest.expressions
  let b ← bs.body
  return .block (b ++ (← bs.elseBody))

def withItem : Reader Unit := do
  discard bs.nest.expression
  if ← take "as" then discard bs.nest.target

def withHeader : Reader Unit := parenthesised <|> plain
where
  parenthesised : Reader Unit := do
    expect "("
    discard (commaList bs.withItem bs.bound)
    expect ")"
    unless ← atSign ":" do failure
  plain : Reader Unit := do
    match ← commaList bs.withItem bs.bound with
    | (_, false) => return
    | _ => failure

def withBlock : Reader Stmt := do
  expect "with"
  bs.withHeader
  return .block (← bs.body)

def handler (group : Bool) : Reader Stmt := do
  expect "except"
  if group then expect "*"
  if group || !(← atSign ":") then
    discard bs.nest.expression
    discard rename
  return .block (← bs.body)

def tryBlock : Reader Stmt := do
  expect "try"
  let b ← bs.body
  let plain ← many (bs.handler false) bs.bound
  let handlers ← if plain.isEmpty then many (bs.handler true) bs.bound else pure plain
  let other ← if handlers.isEmpty then pure [] else bs.elseBody
  if ← take "finally" then return .block (b ++ handlers ++ other ++ (← bs.body))
  if handlers.isEmpty then failure
  return .block (b ++ handlers ++ other)

def caseBlock : Reader Stmt := do
  word "case"
  bs.pattern
  if ← take "if" then discard bs.nest.named
  return .block (← bs.body)

def matchHeader : Reader Unit := do
  word "match"
  match ← commaList (bs.nest.starredOr bs.nest.named) bs.bound with
  | ([e], false) => if Nesting.isStarred e then failure
  | _ => pure ()
  expect ":"
  lineEnd
  indent

def matchBlock : Reader Stmt := do
  let cases ← many bs.caseBlock bs.bound
  if cases.isEmpty then failure
  dedent
  return .block cases

def classBlock : Reader Stmt := do
  expect "class"
  let n ← plainName
  let bases ← if ← atSign "(" then (·.plain) <$> bs.nest.arguments else pure []
  return .classDef n bases (← bs.body)

/-- Parameters that may be given by position or by key. -/
def named (ps : List Param) : List (String × Option Expr) :=
  let ordinary := ps.takeWhile fun p => p.kind = .ordinary || p.kind = .slash
  let rest := if ordinary.any (·.kind = .slash) then (ordinary.dropWhile (·.kind ≠ .slash)).drop 1
    else ordinary
  rest.map fun p => (p.name, p.annotation)

def function (isAsync : Bool) : Reader Stmt := do
  expect "def"
  let n ← name
  expect "("
  let ps ← bs.nest.parameters true ")"
  expect ")"
  let returns ← if ← take "->" then some <$> bs.nest.expression else pure none
  return .function isAsync n (named ps) returns (← bs.body)

def decorator : Reader Unit := do
  expect "@"
  discard bs.nest.named
  lineEnd

def asyncBlock : Reader Stmt := do
  expect "async"
  if ← atSign "def" then bs.function true
  else if ← atSign "for" then bs.forLoop
  else bs.withBlock

def compound (s : String) : Option (Reader Stmt) :=
  match s with
  | "if" => some (do skip; bs.branches bs.bound)
  | "while" => some bs.whileLoop
  | "for" => some bs.forLoop
  | "with" => some bs.withBlock
  | "try" => some bs.tryBlock
  | "class" => some bs.classBlock
  | "def" => some (bs.function false)
  | "async" => some bs.asyncBlock
  | "@" => some decorated
  | _ => none
where
  decorated : Reader Stmt := do
    discard (many bs.decorator bs.bound)
    if ← atSign "class" then bs.classBlock
    else
      let isAsync ← take "async"
      bs.function isAsync

def line : Reader (List Stmt) := do
  match ← peek with
  | some (.sign s) =>
    match bs.compound s with
    | some r => return [← r]
    | none => bs.simpleLine bs.bound
  | some (.name ⟨"match", _⟩) =>
    match ← optional bs.matchHeader with
    | some _ => return [← bs.matchBlock]
    | none => bs.simpleLine bs.bound
  | _ => bs.simpleLine bs.bound

end Blocks

def blocks (nest : Nesting) : Nat → Blocks
  | 0 => ⟨nest, failure, failure⟩
  | n + 1 => ⟨nest, (Pattern.patterns nest nest.bound).top, (blocks nest n).line⟩

/-- The statements of a source, or nothing where it is no source at all. -/
def parse (s : List Char) : Option (List Stmt) :=
  let scanned := scan s
  let bound := s.length + 8
  let bs := blocks (nesting bound 0 bound .off) (Layout.maxBlocks + 2)
  if scanned.fault.isSome then none
  else
    match (many bs.statement bound).outcome scanned.tokens with
    | .ok (some (ss, [])) => some ss.flatten
    | _ => none

end TypedTemplate.ClassSource
