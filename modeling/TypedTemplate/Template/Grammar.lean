import TypedTemplate.Template.Stream

/-! The grammar of expressions. The parts of the grammar that nest take the reader of nested
expressions as a parameter, and `expression` ties the knot. -/
namespace TypedTemplate.Template
open Reader

inductive Nested where
  | full
  | plain
  | negation
  | operand

structure Nesting where
  read : Nested → Reader Expr
  bound : Nat

namespace Nesting

def repeat_ {σ α : Type} (step : σ → Reader (σ ⊕ α)) : Nat → σ → Reader α
  | 0, _ => failHere .noTagName
  | n + 1, s => do
    match ← step s with
    | .inl s => repeat_ step n s
    | .inr a => return a

variable (nest : Nesting)

def expression : Reader Expr := nest.read .full

/-- Operands joined from the left. Each new node has the line at which its left operand began, or at
which the sign after it stands. -/
def chain (form? : TokenKind → Option Form) (operand : Reader Expr) : Reader Expr := do
  let start ← line
  let first ← operand
  let step : Nat × Expr → Reader ((Nat × Expr) ⊕ Expr) := fun (l, left) => do
    match form? (← current).kind with
    | none => return .inr left
    | some form =>
      let _ ← advance
      let right ← operand
      return .inl (← line, .compound l form [left, right])
  repeat_ step nest.bound (start, first)

structure Arguments where
  positional : List Expr
  named : List (String × Expr)
  spread : Option Expr
  namedSpread : Option Expr

def Arguments.none : Arguments := ⟨[], [], .none, .none⟩

def Arguments.shape (a : Arguments) : ArgShape :=
  ⟨a.positional.length, a.named.map (·.1), a.spread.isSome || a.namedSpread.isSome⟩

def Arguments.values (a : Arguments) : List Expr :=
  a.positional ++ a.named.map (·.2) ++ a.spread.toList ++ a.namedSpread.toList

/-- One argument. Arguments by position come first, and nothing follows a spread table. -/
def argument (open_ : Nat) (a : Arguments) : Reader Arguments := do
  let ensure (ok : Bool) : Reader Unit := if ok then pure () else fail open_ .callArguments
  let t ← current
  if t.kind = .operator .mul then
    ensure (a.spread.isNone && a.namedSpread.isNone)
    let _ ← advance
    return { a with spread := some (← nest.expression) }
  if t.kind = .operator .pow then
    ensure a.namedSpread.isNone
    let _ ← advance
    return { a with namedSpread := some (← nest.expression) }
  let key ← match t.kind with
    | .name s => do
      if (← look).kind = .operator .assign then pure (some s) else pure none
    | _ => pure none
  match key with
  | some s =>
    ensure a.namedSpread.isNone
    let _ ← advance
    let _ ← advance
    return { a with named := a.named ++ [(s, ← nest.expression)] }
  | none =>
    ensure (a.spread.isNone && a.namedSpread.isNone && a.named.isEmpty)
    return { a with positional := a.positional ++ [← nest.expression] }

def arguments : Reader Arguments := do
  let t ← expectOp .lparen
  let step : Bool × Arguments → Reader ((Bool × Arguments) ⊕ Arguments) := fun (later, a) => do
    if ← atOp .rparen then return .inr a
    if later then
      let _ ← expectOp .comma
      if ← atOp .rparen then return .inr a
    return .inl (true, ← nest.argument t.line a)
  let a ← repeat_ step nest.bound (false, .none)
  let _ ← expectOp .rparen
  return a

def callOf (callee : Expr) : Reader Expr := do
  let l ← line
  let a ← nest.arguments
  return .call l callee a.shape a.values

def bound? : Reader (Option Expr) := do
  let k := (← current).kind
  if k = .operator .rbracket ∨ k = .operator .comma then return none
  return some (← nest.expression)

def subscript : Reader Expr := do
  let l ← line
  let first ← if ← atOp .colon then pure none else some <$> nest.expression
  match first, ← skipIf (.operator .colon) with
  | some e, false => return e
  | start, _ => slice l start.toList
where
  slice (l : Nat) (start : List Expr) : Reader Expr := do
    let stop ← if ← atOp .colon then pure none else nest.bound?
    let stride ← if ← skipIf (.operator .colon) then nest.bound? else pure none
    return .compound l .slice (start ++ stop.toList ++ stride.toList)

/-- An attribute, or an item by its number or by subscripts. -/
def access (base : Expr) : Reader Expr := do
  let t ← advance
  if t.kind = .operator .dot then
    let a ← advance
    match a.kind with
    | .name s => return .attr t.line base s
    | .integer => return .item t.line base (.constant a.line none)
    | _ => fail a.line .noAttribute
  let step : List Expr → Reader (List Expr ⊕ List Expr) := fun args => do
    if ← atOp .rbracket then return .inr args
    unless args.isEmpty do
      let _ ← expectOp .comma
    return .inl (args ++ [← nest.subscript])
  let args ← repeat_ step nest.bound []
  let _ ← expectOp .rbracket
  match args with
  | [arg] => return .item t.line base arg
  | _ => return .item t.line base (.compound t.line .tuple args)

def postfixes (base : Expr) : Reader Expr :=
  let step : Expr → Reader (Expr ⊕ Expr) := fun e => do
    match (← current).kind with
    | .operator .dot => return .inl (← nest.access e)
    | .operator .lbracket => return .inl (← nest.access e)
    | .operator .lparen => return .inl (← nest.callOf e)
    | _ => return .inr e
  repeat_ step nest.bound base

def dottedName : Reader (Nat × String) := do
  let (l, first) ← expectName
  let step : String → Reader (String ⊕ String) := fun s => do
    if ← skipIf (.operator .dot) then
      let (_, next) ← expectName
      return .inl (s ++ "." ++ next)
    return .inr s
  return (l, ← repeat_ step nest.bound first)

def namedFilter (input : Option Expr) : Reader Expr := do
  let (l, name) ← nest.dottedName
  let a ← if ← atOp .lparen then nest.arguments else pure .none
  return .filter l name a.shape (input.toList ++ a.values)

def filters (input : Option Expr) : Reader (Option Expr) :=
  let step : Option Expr → Reader (Option Expr ⊕ Option Expr) := fun e => do
    if ← skipIf (.operator .pipe) then return .inl (some (← nest.namedFilter e))
    return .inr e
  repeat_ step nest.bound input

/-- The items of a bracketed list, where a comma may follow the last. -/
def items {α : Type} (close : Operator) (item : Reader (List α)) : Reader (List α) := do
  let step : List α → Reader (List α ⊕ List α) := fun done => do
    if ← atOp close then return .inr done
    unless done.isEmpty do
      let _ ← expectOp .comma
    if ← atOp close then return .inr done
    return .inl (done ++ (← item))
  let found ← repeat_ step nest.bound []
  let _ ← expectOp close
  return found

/-- Expressions with commas between them: one expression stands for itself, and with a comma they
make a tuple, placed at the last comma. -/
def tupleOf (item : Reader Expr) (mayBeEmpty : Bool) : Reader Expr := do
  let start ← line
  let atEnd : Reader Bool := do
    let k := (← current).kind
    return k = .variableEnd || k = .blockEnd || k = .operator .rparen
  let step :
      Nat × Bool × List Expr → Reader ((Nat × Bool × List Expr) ⊕ (Nat × Bool × List Expr)) :=
    fun (l, isTuple, done) => do
      unless done.isEmpty do
        let _ ← expectOp .comma
      if ← atEnd then return .inr (l, isTuple, done)
      let done := done ++ [← item]
      if ← atOp .comma then return .inl (← line, true, done)
      return .inr (l, isTuple, done)
  let (l, isTuple, done) ← repeat_ step nest.bound (start, false, [])
  match isTuple, done with
  | false, e :: _ => return e
  | _, _ =>
    if !isTuple && !mayBeEmpty then failHere (.noExpression (← current).kind.describe)
    else return .compound l .tuple done

def strings (first : String) : Reader String :=
  let step : String → Reader (String ⊕ String) := fun s => do
    match (← current).kind with
    | .string t =>
      let _ ← advance
      return .inl (s ++ t)
    | _ => return .inr s
  repeat_ step nest.bound first

def pair : Reader (List Expr) := do
  let key ← nest.expression
  let _ ← expectOp .colon
  return [key, ← nest.expression]

def primary : Reader Expr := do
  let t ← current
  match t.kind with
  | .name s =>
    let _ ← advance
    return if Expr.isReserved s then .constant t.line none else .name t.line s
  | .string s =>
    let _ ← advance
    return .constant t.line (some (← nest.strings s))
  | .integer | .float =>
    let _ ← advance
    return .constant t.line none
  | .operator .lparen =>
    let _ ← advance
    let e ← nest.tupleOf nest.expression true
    let _ ← expectOp .rparen
    return e
  | .operator .lbracket =>
    let _ ← advance
    return .compound t.line .list (← nest.items .rbracket ((fun e => [e]) <$> nest.expression))
  | .operator .lbrace =>
    let _ ← advance
    return .compound t.line .dict (← nest.items .rbrace nest.pair)
  | k => fail t.line (.unexpected k.describe)

def startsTestArgument (k : TokenKind) : Bool :=
  match k with
  | .name s => !(s == "else" || s == "or" || s == "and")
  | .string _ | .integer | .float | .operator .lbracket | .operator .lbrace => true
  | _ => false

def testOf (subject : Expr) : Reader Expr := do
  let t ← advance
  let negated ← skipIf (.name "not")
  let _ ← nest.dottedName
  let k := (← current).kind
  let args ←
    if k = .operator .lparen then (·.values) <$> nest.arguments
    else if startsTestArgument k then do
      if k = .name "is" then failHere .chainedTests
      let arg ← nest.primary
      pure [← nest.postfixes arg]
    else pure []
  let test := Expr.compound t.line .test (subject :: args)
  return if negated then .compound t.line .not [test] else test

def filterable (base : Expr) : Reader Expr :=
  let step : Expr → Reader (Expr ⊕ Expr) := fun e => do
    match (← current).kind with
    | .operator .pipe => return .inl ((← nest.filters (some e)).getD e)
    | .name "is" => return .inl (← nest.testOf e)
    | .operator .lparen => return .inl (← nest.callOf e)
    | _ => return .inr e
  repeat_ step nest.bound base

/-- A sign binds closer than a filter, so the operand of a sign has none. -/
def unary (withFilter : Bool) : Reader Expr := do
  let t ← current
  let e ← match t.kind with
    | .operator .sub => do
      let _ ← advance
      pure (Expr.compound t.line .neg [← nest.read .operand])
    | .operator .add => do
      let _ ← advance
      pure (Expr.compound t.line .pos [← nest.read .operand])
    | _ => nest.primary
  let e ← nest.postfixes e
  if withFilter then nest.filterable e else return e

def power : Reader Expr :=
  nest.chain (fun | .operator .pow => some .pow | _ => none) (nest.unary true)

def product : Reader Expr :=
  nest.chain
    (fun
      | .operator .mul => some .mul
      | .operator .div => some .div
      | .operator .floordiv => some .floordiv
      | .operator .mod => some .mod
      | _ => none)
    nest.power

def concatenation : Reader Expr := do
  let l ← line
  let first ← nest.product
  let step : List Expr → Reader (List Expr ⊕ List Expr) := fun parts => do
    if ← skipIf (.operator .tilde) then return .inl (parts ++ [← nest.product])
    return .inr parts
  match ← repeat_ step nest.bound [first] with
  | [e] => return e
  | parts => return .compound l .concat parts

def sum : Reader Expr :=
  nest.chain (fun | .operator .add => some .add | .operator .sub => some .sub | _ => none)
    nest.concatenation

/-- Whether a comparison follows; its sign is consumed. -/
def comparison : Reader Bool := do
  match (← current).kind with
  | .operator .eq | .operator .ne | .operator .lt | .operator .lteq | .operator .gt | .operator
    .gteq | .name "in" =>
    let _ ← advance
    return true
  | .name "not" =>
    if (← look).kind = .name "in" then
      let _ ← advance
      let _ ← advance
      return true
    return false
  | _ => return false

def compared : Reader Expr := do
  let start ← line
  let first ← nest.sum
  let step : Nat × List Expr → Reader ((Nat × List Expr) ⊕ (Nat × List Expr)) :=
    fun (l, parts) => do
    if ← comparison then
      let parts := parts ++ [← nest.sum]
      return .inl (← line, parts)
    return .inr (l, parts)
  match ← repeat_ step nest.bound (start, [first]) with
  | (_, [e]) => return e
  | (l, parts) => return .compound l .compare parts

def negation : Reader Expr := do
  let t ← current
  if t.kind = .name "not" then
    let _ ← advance
    return .compound t.line .not [← nest.read .negation]
  nest.compared

def conjunction : Reader Expr :=
  nest.chain (fun | .name "and" => some .and | _ => none) nest.negation

def disjunction : Reader Expr :=
  nest.chain (fun | .name "or" => some .or | _ => none) nest.conjunction

/-- Conditions behind their value; an alternative takes all that follows. -/
def conditional : Reader Expr := do
  let start ← line
  let first ← nest.disjunction
  let step : Nat × Expr → Reader ((Nat × Expr) ⊕ Expr) := fun (l, e) => do
    if ← skipIf (.name "if") then
      let test ← nest.disjunction
      let other ← if ← skipIf (.name "else") then some <$> nest.read .full else pure none
      return .inl (← line, .compound l .conditional ([test, e] ++ other.toList))
    return .inr e
  repeat_ step nest.bound (start, first)

end Nesting

/-- Every nesting consumes a token, so the number of tokens bounds the depth. -/
def nested : Nat → Nested → Reader Expr
  | 0, _ => failHere .noTagName
  | n + 1, place =>
    let nest : Nesting := ⟨nested n, n + 1⟩
    match place with
    | .full => nest.conditional
    | .plain => nest.disjunction
    | .negation => nest.negation
    | .operand => nest.unary false

def nesting (depth : Nat) : Nesting := ⟨nested depth, depth⟩

end TypedTemplate.Template
