import TypedTemplate.Template.Grammar

/-! The grammar of statements, and reading a whole template. -/
namespace TypedTemplate.Template
open Reader

/-- Statement words that are known only where they are switched on. -/
structure Dialect where
  evaluates : Bool
  jumps : Bool

/-- What surrounds a statement: the dialect, the open blocks and the tags that each of them waits
for, innermost first, how expressions nest, and how to read a body up to one of some tags. -/
structure Surroundings where
  dialect : Dialect
  blocks : List String
  waiting : List (List String)
  nest : Nesting

namespace Surroundings

variable (sur : Surroundings)

def tagFault (met : Option String) (waiting : List (List String)) : Fault :=
  .tag ⟨met, waiting.headD [], met.any fun name => waiting.any (·.contains name), sur.blocks.head?⟩

def checkTarget (e : Expr) : Reader Expr :=
  if e.assignable then pure e else fail e.line (.assignment e.word)

def target : Reader Expr := do checkTarget (← sur.nest.tupleOf sur.nest.primary false)

def nameTarget : Reader (Nat × String) := do
  let (l, s) ← expectName
  let _ ← checkTarget (.name l s)
  return (l, s)

/-- The parameters of a definition; the result holds the default values. -/
def parameters : Reader (List Expr) := do
  let _ ← expectOp .lparen
  let step : Bool × List Expr → Reader ((Bool × List Expr) ⊕ List Expr) :=
    fun (later, defaults) => do
    if ← atOp .rparen then return .inr defaults
    if later then
      let _ ← expectOp .comma
    let _ ← nameTarget
    if ← skipIf (.operator .assign) then return .inl (true, defaults ++ [← sur.nest.expression])
    unless defaults.isEmpty do failHere .parameterOrder
    return .inl (true, defaults)
  let defaults ← Nesting.repeat_ step sur.nest.bound (false, [])
  let _ ← expectOp .rparen
  return defaults

def contextWords (wordOf : TokenKind → Option String) : Reader Bool := do
  let word := wordOf (← current).kind
  if word = some "with" ∨ word = some "without" then
    if (← look).kind = .name "context" then
      let _ ← advance
      let _ ← advance
      return true
  return false

def importedNames : Reader Unit := do
  let step : Bool → Reader (Bool ⊕ Unit) := fun later => do
    if later then
      let _ ← expectOp .comma
    match (← current).kind with
    | .name _ =>
      if ← contextWords TokenKind.word? then return .inr ()
      let (l, s) ← nameTarget
      if s.toList.head? = some '_' then fail l .hiddenImport
      if ← skipIf (.name "as") then
        let _ ← nameTarget
      if ← contextWords TokenKind.word? then return .inr ()
      if ← atOp .comma then return .inl true
      return .inr ()
    | _ => refuse "name"
  Nesting.repeat_ step sur.nest.bound false

abbrev Body := Surroundings → List String → Reader (List Stmt)

/-- A block's statements: behind the end of its tag, up to one of the given tags. -/
def body (read : Body) (ends : List String) : Reader (List Stmt) := do
  let _ ← skipIf (.operator .colon)
  let _ ← expect .blockEnd
  let stmts ← read sur ends
  if ← atKind .endOfTemplate then failHere (sur.tagFault none (ends :: sur.waiting))
  return stmts

def wholeBody (read : Body) (end_ : String) : Reader (List Stmt) := do
  let stmts ← sur.body read [end_]
  let _ ← advance
  return stmts

def loop (read : Body) : Reader Stmt := do
  let _ ← advance
  let target ← sur.target
  let _ ← expectWord "in"
  let iterable ← sur.nest.tupleOf (sur.nest.read .plain) false
  if ← skipIf (.name "if") then
    let _ ← sur.nest.expression
  let _ ← skipIf (.name "recursive")
  let stmts ← sur.body read ["endfor", "else"]
  let t ← advance
  let otherwise ← if t.kind = .name "endfor" then pure [] else sur.wholeBody read "endfor"
  return .loop target iterable stmts otherwise

def conditional (read : Body) : Reader Stmt := do
  let _ ← advance
  let branch : Reader (Expr × List Stmt) := do
    let test ← sur.nest.tupleOf (sur.nest.read .plain) false
    return (test, ← sur.body read ["elif", "else", "endif"])
  let (test, stmts) ← branch
  let step : List Stmt → Reader (List Stmt ⊕ (List Stmt × List Stmt)) := fun alternatives => do
    let t ← advance
    if t.kind = .name "elif" then
      let (test, stmts) ← branch
      return .inl (alternatives ++ [.conditional test stmts [] []])
    if t.kind = .name "else" then return .inr (alternatives, ← sur.wholeBody read "endif")
    return .inr (alternatives, [])
  let (alternatives, otherwise) ← Nesting.repeat_ step sur.nest.bound []
  return .conditional test stmts alternatives otherwise

def assignment (read : Body) : Reader Stmt := do
  let _ ← advance
  if (← look).kind = .operator .dot then
    let _ ← expectName
    let _ ← advance
    let _ ← expectName
  else
    let _ ← sur.target
  if ← skipIf (.operator .assign) then
    return .evaluate (← sur.nest.tupleOf sur.nest.expression false)
  let filter ← sur.nest.filters none
  return .block .capture filter.toList (← sur.wholeBody read "endset") []

def bindings (read : Body) : Reader Stmt := do
  let _ ← advance
  let step : List Expr → Reader (List Expr ⊕ List Expr) := fun values => do
    if ← atKind .blockEnd then return .inr values
    unless values.isEmpty do
      let _ ← expectOp .comma
    let _ ← sur.target
    let _ ← expectOp .assign
    return .inl (values ++ [← sur.nest.expression])
  let values ← Nesting.repeat_ step sur.nest.bound []
  return .block .binding values (← sur.wholeBody read "endwith") []

def namedBlock (read : Body) : Reader Stmt := do
  let _ ← advance
  let (_, name) ← expectName
  let _ ← skipIf (.name "scoped")
  let required ← skipIf (.name "required")
  if ← atOp .sub then failHere .hyphenatedBlock
  let stmts ← sur.wholeBody read "endblock"
  if required && !stmts.all Stmt.isBlank then failHere .requiredBlock
  let _ ← skipIf (.name name)
  return .block .named [] stmts []

def printed : Reader Stmt := do
  let _ ← advance
  let step : List Expr → Reader (List Expr ⊕ List Expr) := fun values => do
    if ← atKind .blockEnd then return .inr values
    unless values.isEmpty do
      let _ ← expectOp .comma
    return .inl (values ++ [← sur.nest.expression])
  return .print (← Nesting.repeat_ step sur.nest.bound [])

def included : Reader Stmt := do
  let _ ← advance
  let template ← sur.nest.expression
  if ← atName "ignore" then
    if (← look).kind = .name "missing" then
      let _ ← advance
      let _ ← advance
  let _ ← contextWords TokenKind.name?
  return .evaluate template

def imported : Reader Stmt := do
  let _ ← advance
  let template ← sur.nest.expression
  let _ ← expectWord "as"
  let _ ← nameTarget
  let _ ← contextWords TokenKind.name?
  return .evaluate template

def importedFrom : Reader Stmt := do
  let _ ← advance
  let template ← sur.nest.expression
  let _ ← expectWord "import"
  sur.importedNames
  return .evaluate template

def callBlock (read : Body) : Reader Stmt := do
  let t ← advance
  let defaults ← if ← atOp .lparen then sur.parameters else pure []
  let call ← sur.nest.expression
  unless call.isCall do fail t.line .noCall
  return .block .call (call :: defaults) (← sur.wholeBody read "endcall") []

def filterBlock (read : Body) : Reader Stmt := do
  let _ ← advance
  let first ← sur.nest.namedFilter none
  let filter ← sur.nest.filters (some first)
  let stmts ← sur.wholeBody read "endfilter"
  return .block .filter [] stmts filter.toList

def definition (read : Body) : Reader Stmt := do
  let _ ← advance
  let _ ← nameTarget
  let defaults ← sur.parameters
  return .block .definition defaults (← sur.wholeBody read "endmacro") []

/-- The reader of the statement with the given word, if there is such a statement. -/
def statement? (word : String) (read : Body) : Option (Reader Stmt) :=
  match word with
  | "for" => some (sur.loop read)
  | "if" => some (sur.conditional read)
  | "block" => some (sur.namedBlock read)
  | "extends" => some do
    let _ ← advance
    return .evaluate (← sur.nest.expression)
  | "print" => some sur.printed
  | "macro" => some (sur.definition read)
  | "include" => some sur.included
  | "from" => some sur.importedFrom
  | "import" => some sur.imported
  | "set" => some (sur.assignment read)
  | "with" => some (sur.bindings read)
  | "autoescape" => some do
    let _ ← advance
    let value ← sur.nest.expression
    return .block .escaping [value] (← sur.wholeBody read "endautoescape") []
  | "call" => some (sur.callBlock read)
  | "filter" => some (sur.filterBlock read)
  | "do" =>
    if sur.dialect.evaluates then some do
      let _ ← advance
      return .evaluate (← sur.nest.tupleOf sur.nest.expression false)
    else none
  | "break" | "continue" =>
    if sur.dialect.jumps then some do
      let _ ← advance
      return .jump
    else none
  | _ => none

def statement (read : Body) : Reader Stmt := do
  let t ← current
  match t.kind with
  | .name word =>
    match ({ sur with blocks := word :: sur.blocks }).statement? word read with
    | some stmt => stmt
    | none => fail t.line (sur.tagFault (some word) sur.waiting)
  | _ => fail t.line .noTagName

end Surroundings

/-- Statements up to the end of the template or to one of the given tags. Every statement consumes a
token, so the number of tokens bounds the recursion. -/
def statements : Nat → Surroundings → List String → Reader (List Stmt)
  | 0, _, _ => pure []
  | n + 1, sur, ends => do
    let t ← current
    match t.kind with
    | .endOfTemplate => return []
    | .data text =>
      let _ ← advance
      return .text text :: (← statements n sur ends)
    | .variableBegin =>
      let _ ← advance
      let value ← sur.nest.tupleOf sur.nest.expression false
      let _ ← expect .variableEnd
      return .output value :: (← statements n sur ends)
    | _ =>
      let _ ← advance
      let atEnd := match (← current).kind with
        | .name s => ends.contains s
        | _ => false
      if atEnd then return []
      let inner := { sur with waiting := if ends.isEmpty then sur.waiting else ends :: sur.waiting }
      let stmt ← inner.statement (statements n)
      let _ ← expect .blockEnd
      return stmt :: (← statements n sur ends)

/-- The syntax tree of a template. -/
def parse (dialect : Dialect) (source : String) : Except Failure (List Stmt) := do
  let (tokens, failure) := scan source.toList
  let stream ← Stream.start tokens failure
  let depth := tokens.length + 2
  let (stmts, _) ← (statements depth ⟨dialect, [], [], nesting depth⟩ []).run stream
  return stmts

end TypedTemplate.Template
