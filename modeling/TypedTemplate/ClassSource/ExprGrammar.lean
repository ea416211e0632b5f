import TypedTemplate.ClassSource.Interpolation
import TypedTemplate.ClassSource.ParameterCause
import TypedTemplate.ClassSource.Scan

/-! The grammar of expressions. The parts that nest take the readers of nested expressions as a
parameter, and `nesting` ties the knot. -/
namespace TypedTemplate.ClassSource
open Reader

/-- A parameter of a function. -/
inductive ParamKind where
  | ordinary
  | slash
  | star
  | rest
  | keys
  deriving DecidableEq

structure Param where
  kind : ParamKind
  name : String
  annotation : Option Expr
  fallback : Option Expr

namespace Param

/-- As written without annotation and default. -/
def shown (p : Param) : String :=
  match p.kind with
  | .ordinary => p.name
  | .slash => "/"
  | .star => "*"
  | .rest => "*" ++ p.name
  | .keys => "**" ++ p.name

end Param

/-- What a list of parameters has had so far. -/
structure ParamState where
  params : List Param
  slash : Bool
  fallback : Bool
  starred : Bool
  bare : Bool
  ended : Bool

namespace Nesting

variable (nest : Nesting)

def named : Reader Expr := do
  unless ← atNameThen ":=" do nest.namedCause
  nest.assigned

def yielding : Reader Expr := do
  expect "yield"
  if ← take "from" then return .mk .yieldFrom [← nest.expression]
  match ← optional nest.expressions with
  | some e => return .mk .yield [e]
  | none => return .mk .yield []

def expressionsOrYield : Reader Expr := do
  if ← atSign "yield" then nest.yielding else nest.expressions

def target : Reader Expr := do
  let e ← if ← atSign "*" then starred (nest.read .primary) else nest.read .primary
  unless e.isTarget do failure
  return e

def targets : Reader Expr := nest.row nest.target

/-- The target of a loop with the word behind it. -/
def loopTarget : Reader Expr := do
  let head : Reader Expr := do
    let t ← nest.targets
    expect "in"
    return t
  match ← optional head with
  | some t => return t
  | none =>
    nest.targetCause
    failure

/-- A clause of a comprehension with its parts. -/
def clause : Reader (Clause × List Expr) := do
  let isAsync ← take "async"
  expect "for"
  let t ← nest.loopTarget
  let source ← nest.read .disjunction
  let condition : Reader Expr := do
    expect "if"
    nest.read .disjunction
  let conditions ← many condition nest.bound
  return (⟨isAsync, conditions.length⟩, t :: source :: conditions)

def atClause : Reader Bool := atAny ["for", "async"]

def clauses : Reader Unit := do
  if (← many nest.clause nest.bound).isEmpty then failure

def comprehension (kind : Collection) (yields : List Expr) : Reader Expr := do
  match ← many nest.clause nest.bound with
  | [] => failure
  | cs => return .mk (.comprehension kind (cs.map (·.1))) (yields ++ cs.flatMap (·.2))

def isStarred (e : Expr) : Bool :=
  match e.form with
  | .starred => true
  | _ => false

def afterFirst (kind : Collection) (first : Expr) : Reader (Expr ⊕ (List Expr × Bool)) := do
  if !isStarred first && (← atClause) then return .inl (← nest.comprehension kind [first])
  if ← take "," then
    match ← optional (commaList (nest.starredOr nest.named) nest.bound) with
    | some (rest, _) => return .inr (first :: rest, true)
    | none => return .inr ([first], true)
  return .inr ([first], false)

def grouped : Reader Expr := do
  let first ← nest.starredOr nest.named
  let r ← nest.afterFirst .generator first
  expect ")"
  match r with
  | .inl e => return e
  | .inr (es, true) => return .mk .tuple es
  | .inr (_, false) => if isStarred first then failure else return first

def group : Reader Expr := do
  expect "("
  if ← take ")" then return .mk .tuple []
  if ← atSign "yield" then
    let e ← nest.yielding
    expect ")"
    return e
  match ← optional nest.grouped with
  | some e => return e
  | none =>
    nest.groupCause
    nest.comprehensionCause false (nest.starredOr nest.named) nest.clauses
    failure

def list : Reader Expr := do
  expect "["
  if ← take "]" then return .mk .list []
  let r ← nest.afterFirst .list (← nest.starredOr nest.named)
  expect "]"
  match r with
  | .inl e => return e
  | .inr (es, _) => return .mk .list es

def entry : Reader (Bool × List Expr) := do
  if ← take "**" then return (false, [← nest.read .operand])
  let k ← nest.expression
  expect ":"
  return (true, [k, ← nest.expression])

def dictRest (first : Bool × List Expr) : Reader Expr := do
  if first.1 && (← atClause) then return ← nest.comprehension .dict first.2
  let rest ← if ← take "," then optional (commaList nest.entry nest.bound) else pure none
  let entries := first :: (rest.map (·.1)).getD []
  return .mk (.dict (entries.map (·.1))) (entries.flatMap (·.2))

def setRest (first : Expr) : Reader Expr := do
  match ← nest.afterFirst .set first with
  | .inl e => return e
  | .inr (es, _) => return .mk .set es

def braced : Reader Expr := do
  let e ← if ← atSign "**" then do nest.dictRest (← nest.entry)
    else if (← atSign "*") || (← atNameThen ":=") then do nest.setRest (← nest.starredOr nest.named)
    else do
      let first ← nest.expression
      if ← take ":" then nest.dictRest (true, [first, ← nest.expression]) else nest.setRest first
  expect "\x7d"
  return e

def braces : Reader Expr := do
  expect "\x7b"
  if ← take "\x7d" then return .mk (.dict []) []
  match ← optional nest.braced with
  | some e => return e
  | none =>
    nest.dictCause nest.entry
    if nest.alert then discard (ahead (nest.row (nest.starredOr nest.named)))
    nest.spreadCause nest.clauses
    nest.comprehensionCause true (nest.starredOr nest.named) nest.clauses
    failure

/-- The expression that a text in braces stands for. -/
def ofText (s : List Char) : Except Fault Expr :=
  let scanned := scan s
  match scanned.fault with
  | some cause => if cause.isLexical then .error cause else judged scanned
  | none => judged scanned
where
  judged (scanned : Scanned) : Except Fault Expr :=
    ({ nest with depth := scanned.depth }.judge expressions scanned.tokens).mapError Fault.inBraces

def piece : Reader Piece := do
  match ← peek with
  | some (.text p) =>
    skip
    return p
  | _ => failure

def texts : Reader Expr := do
  let ps ← many piece nest.bound
  match literal nest.ofText ps with
  | .ok e => return e
  | .error cause => refuse cause

def atom : Reader Expr := do
  match ← peek with
  | some (.name n) =>
    skip
    return .leaf (.name n.text)
  | some (.number n) =>
    skip
    return .leaf (.number n)
  | some (.text _) => nest.texts
  | some (.sign s) =>
    if s == "(" then nest.group
    else if s == "[" then nest.list
    else if s == "\x7b" then nest.braces
    else
      skip
      match s with
      | "True" => return .leaf (.truth true)
      | "False" => return .leaf (.truth false)
      | "None" => return .leaf .none
      | "..." => return .leaf .ellipsis
      | _ => failure
  | _ => failure

structure Arguments where
  plain : List Expr
  keyed : List (Option String × Expr)
  stage : Nat

/-- A key that is none. -/
def keyCause : Reader Unit := do
  match ← ahead (takeAny ["True", "False", "None"]) with
  | some (some w) =>
    skip
    if ← atSign "=" then refuse (.argument (.constantKey w)) else failure
  | _ =>
    if ← atNameThen "=" then
      skip
      expect "="
      discard nest.expression
      nest.clauses
      refuse .equality
    else
      discard nest.expression
      expect "="
      refuse (.argument .notAKey)

def positional : Reader Expr := do
  if ← atSign "*" then return ← nest.starredExpression
  let e ← nest.assigned
  if ← atAny ["=", ":="] then failure
  return e

/-- Values by position come first. A starred value may follow a keyed one, but nothing by position
or with one star follows a spread table. -/
def argument (a : Arguments) : Reader Arguments := do
  let plain : Reader Arguments := do
    unless a.stage = 0 do failure
    return { a with plain := a.plain ++ [← nest.positional] }
  let keyed : Reader Arguments := do
    if nest.alert then once .key (discard (ahead nest.keyCause))
    if ← take "**"
      then return { a with keyed := a.keyed ++ [(none, ← nest.expression)], stage := 2 }
    if ← atSign "*" then
      unless a.stage = 1 do failure
      return { a with plain := a.plain ++ [← nest.starredExpression] }
    let key ← name
    expect "="
    return { a with keyed := a.keyed ++ [(some key, ← nest.expression)], stage := max a.stage 1 }
  plain <|> keyed

def argumentsFrom : Nat → Arguments → Reader Arguments
  | 0, _ => failure
  | n + 1, a => do
    if ← atSign ")" then return a
    let a ← nest.argument a
    if ← take "," then argumentsFrom n a
    else if ← atSign ")" then return a
    else failure

def arguments : Reader Arguments := do
  expect "("
  let a ← nest.argumentsFrom nest.bound ⟨[], [], 0⟩
  expect ")"
  return a

/-- The arguments up to the first that does not fit. -/
def argumentRun : Nat → Arguments → Reader Arguments
  | 0, a => return a
  | n + 1, a => do
    let next : Reader Arguments := do
      unless a.plain.isEmpty && a.keyed.isEmpty do expect ","
      nest.argument a
    match ← optional next with
    | some a => argumentRun n a
    | none => return a

def someArguments : Reader Arguments := do
  let a ← nest.argumentRun nest.bound ⟨[], [], 0⟩
  if a.plain.isEmpty && a.keyed.isEmpty then failure
  return a

/-- The causes to look for behind the parenthesis of a call where no rule fits. -/
def callCause : Reader Unit := do
  let generator : Reader Unit := do
    discard nest.expression
    nest.clauses
  let starAfterSpread : Reader Unit := do
    discard nest.someArguments
    expect ","
    expect "*"
    refuse (.argument .starAfterSpread)
  let firstGenerator : Reader Unit := do
    generator
    expect ","
    discard (optional (discard nest.someArguments <|> generator))
    refuse (.argument .generator)
  let laterGenerator : Reader Unit := do
    let a ← nest.someArguments
    nest.clauses
    if a.plain.length ≤ 1 then failure
    refuse (.argument .generator)
  let lastGenerator : Reader Unit := do
    discard nest.someArguments
    expect ","
    generator
    refuse (.argument .generator)
  let order : Reader Unit := do
    let a ← nest.someArguments
    expect ","
    discard nest.someArguments
    refuse (.argument (if a.keyed.any (·.1.isNone) then .afterSpread else .afterKey))
  if nest.alert then
    once .call do
      discard (ahead starAfterSpread)
      discard (ahead firstGenerator)
      discard (ahead laterGenerator)
      discard (ahead lastGenerator)
      discard (ahead order)

/-- What stands in the parentheses of a call. A single argument may be a comprehension without
parentheses of its own. -/
def called (callee : Expr) : Reader Expr := do
  if ← take ")" then return .mk (.call []) [callee]
  let a ← nest.argument ⟨[], [], 0⟩
  match a.plain with
  | [e] =>
    if !isStarred e && (← atClause) then
      let g ← nest.comprehension .generator [e]
      expect ")"
      return .mk (.call []) [callee, g]
    else rest a
  | _ => rest a
where
  rest (a : Arguments) : Reader Expr := do
    let a ← if ← take "," then nest.argumentsFrom nest.bound a else pure a
    expect ")"
    return .mk (.call (a.keyed.map (·.1))) (callee :: a.plain ++ a.keyed.map (·.2))

def call (callee : Expr) : Reader Expr := do
  expect "("
  let generator : Reader Unit := do
    discard nest.assigned
    nest.clauses
  if nest.alert then discard (ahead generator)
  nest.comprehensionCause false nest.expression nest.clauses
  match ← optional (nest.called callee) with
  | some e => return e
  | none =>
    nest.callCause
    failure

def bound? : Reader (Option Expr) := do
  if ← atAny [":", ",", "]"] then return none
  return some (← nest.expression)

def sliceOrIndex : Reader Expr := do
  if ← atSign "*" then return ← starred nest.expression
  if ← atNameThen ":=" then return ← nest.named
  let lower ← nest.bound?
  if ← take ":" then
    let upper ← nest.bound?
    let step ← if ← take ":" then nest.bound? else pure none
    return .mk (.slice lower.isSome upper.isSome step.isSome)
      (lower.toList ++ upper.toList ++ step.toList)
  match lower with
  | some e => return e
  | none => failure

def item (base : Expr) : Reader Expr := do
  expect "["
  let (es, trailing) ← commaList nest.sliceOrIndex nest.bound
  expect "]"
  match es, trailing with
  | [e], false => return .mk .subscript [base, if isStarred e then .mk .tuple [e] else e]
  | _, _ => return .mk .subscript [base, .mk .tuple es]

def bracesCause : Reader Unit := do
  expect "\x7b"
  nest.comprehensionCause true (nest.starredOr nest.named) nest.clauses

def trailer (e : Expr) : Reader Expr := do
  if ← take "." then return .mk (.attr (← name)) [e]
  if nest.alert then discard (ahead nest.bracesCause)
  if ← atSign "(" then nest.call e else nest.item e

def trailers : Nat → Expr → Reader Expr
  | 0, e => return e
  | n + 1, e => do
    match ← optional (nest.trailer e) with
    | some e => trailers n e
    | none => return e

def primary : Reader Expr :=
  nest.visit .primary fun nest => do nest.trailers nest.bound (← nest.atom)

def awaited : Reader Expr := do
  if ← take "await" then return .mk .await [← nest.primary]
  nest.primary

def power : Reader Expr := do
  let base ← nest.awaited
  let exponent : Reader Expr := do
    expect "**"
    nest.read .factor
  match ← optional exponent with
  | some e => return .mk (.binary "**" .power) [base, e]
  | none => return base

def factor : Reader Expr := do
  match ← takeAny ["+", "-", "~"] with
  | some s => return .mk (.unary s) [← nest.read .factor]
  | none => nest.power

/-- Operands joined from the left. -/
def chainFrom (signs : List String) (strength : Strength) (operand : Reader Expr) :
    Nat → Expr → Reader Expr
  | 0, e => return e
  | n + 1, e => do
    let next : Reader Expr := do
      match ← takeAny signs with
      | some s => return .mk (.binary s strength) [e, ← operand]
      | none => failure
    match ← optional next with
    | some e => chainFrom signs strength operand n e
    | none => return e

def chain (signs : List String) (strength : Strength) (operand : Reader Expr) : Reader Expr := do
  chainFrom signs strength operand nest.bound (← operand)

def operand : Reader Expr :=
  let term := nest.chain ["*", "/", "//", "%", "@"] .term nest.factor
  let sum := nest.chain ["+", "-"] .sum term
  let shift := nest.chain ["<<", ">>"] .shift sum
  let bitAnd := nest.chain ["&"] .bitAnd shift
  let bitXor := nest.chain ["^"] .bitXor bitAnd
  nest.chain ["|"] .bitOr bitXor

def comparisonSign : Reader String := do
  match ← takeAny ["==", "!=", "<=", "<", ">=", ">", "in", "is", "not"] with
  | some "is" => if ← take "not" then return "is not" else return "is"
  | some "not" =>
    expect "in"
    return "not in"
  | some s => return s
  | none => failure

def comparison : Reader Expr := do
  let first ← nest.operand
  let next : Reader (String × Expr) := do
    let s ← comparisonSign
    return (s, ← nest.operand)
  match ← many next nest.bound with
  | [] => return first
  | more => return .mk (.compare (more.map (·.1))) (first :: more.map (·.2))

def negation : Reader Expr := do
  if ← take "not" then return .mk (.unary "not") [← nest.read .negation]
  nest.comparison

/-- Operands with a word between them, as one expression. -/
def wordChain (w : String) (f : Form) (operand : Reader Expr) : Reader Expr := do
  let first ← operand
  let next : Reader Expr := do
    expect w
    operand
  match ← many next nest.bound with
  | [] => return first
  | more => return .mk f (first :: more)

def disjunction : Reader Expr :=
  nest.wordChain "or" .disjunction (nest.wordChain "and" .conjunction nest.negation)

/-- One parameter or mark in a list of parameters. Defaults go on once begun, up to a star; keyed
ones follow a bare star. -/
def parameter (annotated : Bool) (st : ParamState) : Reader ParamState := do
  let annotation (starToo : Bool) : Reader (Option Expr) := do
    if !annotated then return none
    if ← take ":" then return some (← if starToo then nest.starredOr nest.expression
      else nest.expression)
    return none
  if st.ended then failure
  else if ← take "/" then
    if st.slash || st.starred || st.params.isEmpty then failure
    return { st with params := st.params ++ [⟨.slash, "", none, none⟩], slash := true }
  else if ← take "**" then
    if st.bare then failure
    let n ← name
    return { st with params := st.params ++ [⟨.keys, n, ← annotation false, none⟩], ended := true }
  else if ← take "*" then
    if st.starred then failure
    if ← atSign "," then
      return { st with
        params := st.params ++ [⟨.star, "", none, none⟩], starred := true, bare := true }
    let n ← name
    return { st with params := st.params ++ [⟨.rest, n, ← annotation true, none⟩], starred := true }
  else
    let n ← name
    let a ← annotation false
    let fallback ← if ← take "=" then some <$> nest.expression else pure none
    if st.fallback && fallback.isNone && !st.starred then failure
    return { st with
      params := st.params ++ [⟨.ordinary, n, a, fallback⟩]
      fallback := st.fallback || (fallback.isSome && !st.starred)
      bare := false }

def parametersFrom (annotated : Bool) (closer : String) : Nat → ParamState → Reader ParamState
  | 0, _ => failure
  | n + 1, st => do
    if ← atSign closer then return st
    let st ← nest.parameter annotated st
    if ← take "," then parametersFrom annotated closer n st
    else if ← atSign closer then return st
    else failure

def parameters (annotated : Bool) (closer : String) : Reader (List Param) := do
  let st ← nest.parametersFrom annotated closer nest.bound ⟨[], false, false, false, false, false⟩
  if st.bare then failure
  return st.params

def lambda : Reader Expr := do
  expect "lambda"
  nest.parameterCause
  let ps ← nest.parameters false ":"
  expect ":"
  let body ← nest.expression
  return .mk (.lambda (ps.map fun p => (p.shown, p.fallback.isSome)))
    (ps.filterMap (·.fallback) ++ [body])

/-- An expression without the causes to look for where it begins. -/
def choice : Reader Expr := do
  if ← atSign "lambda" then return ← nest.lambda
  let value ← nest.disjunction
  let choice : Reader Expr := do
    expect "if"
    let test ← nest.disjunction
    expect "else"
    return .mk .conditional [value, test, ← nest.expression]
  match ← optional choice with
  | some e => return e
  | none => return value

def conditional : Reader Expr :=
  nest.visit .expression fun nest => do
    nest.expressionCause
    nest.choice

def level (nest : Nesting) : Nested → Reader Expr
  | .expression => nest.conditional
  | .choice => nest.choice
  | .disjunction => nest.disjunction
  | .negation => nest.negation
  | .operand => nest.operand
  | .factor => nest.factor
  | .primary => nest.primary
  | .atom => nest.atom

end Nesting

def nesting (bound depth : Nat) : Nat → Watch → Nesting
  | 0, watch => ⟨fun _ _ => failure, bound, depth, watch⟩
  | n + 1, watch => ⟨fun watch => (nesting bound depth n watch).level, bound, depth, watch⟩

end TypedTemplate.ClassSource
