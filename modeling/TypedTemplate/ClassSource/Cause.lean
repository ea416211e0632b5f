import TypedTemplate.ClassSource.Nesting

/-! Likely causes of a fault. Each search refuses the source with the cause if it finds one, and
takes no token otherwise. -/
namespace TypedTemplate.ClassSource
open Reader

/-- The kind of an expression in messages. -/
def Expr.kind (e : Expr) : String :=
  match e.form with
  | .name _ => "name"
  | .number _ => "literal"
  | .text _ _ => "literal"
  | .bytes _ => "literal"
  | .truth true => "True"
  | .truth false => "False"
  | .none => "None"
  | .ellipsis => "ellipsis"
  | .attr _ => "attribute"
  | .subscript => "subscript"
  | .call _ => "function call"
  | .starred => "starred"
  | .tuple => "tuple"
  | .list => "list"
  | .set => "set display"
  | .dict _ => "dict literal"
  | .conjunction => "expression"
  | .disjunction => "expression"
  | .binary _ _ => "expression"
  | .unary _ => "expression"
  | .compare _ => "comparison"
  | .conditional => "conditional expression"
  | .lambda _ => "lambda"
  | .named => "named expression"
  | .await => "await expression"
  | .yield => "yield expression"
  | .yieldFrom => "yield expression"
  | .comprehension .list _ => "list comprehension"
  | .comprehension .set _ => "set comprehension"
  | .comprehension .dict _ => "dict comprehension"
  | .comprehension .generator _ => "generator expression"
  | .slice _ _ _ => "expression"
  | .joined => "f-string expression"
  | .formatted _ => "f-string expression"

mutual

/-- What keeps an expression from being the target of a loop. A comparison with `in` is a loop's
head read too far. -/
def Expr.strayTarget? : Expr → Option Expr
  | .mk (.name _) _ => none
  | .mk (.attr _) _ => none
  | .mk .subscript _ => none
  | .mk .tuple ps => Expr.firstStray? ps
  | .mk .list ps => Expr.firstStray? ps
  | .mk .starred ps => Expr.firstStray? ps
  | .mk (.compare ("in" :: _)) (left :: _) => Expr.strayTarget? left
  | .mk (.compare _) _ => none
  | e => some e

def Expr.firstStray? : List Expr → Option Expr
  | [] => none
  | e :: es => (Expr.strayTarget? e).or (Expr.firstStray? es)

end

def legacyStatements : List String := ["print", "exec"]

def softKeywords : List String := ["match", "case", "_"]

def beginsKeyword (w : String) : Bool := softKeywords.any fun k => w.toList.isPrefixOf k.toList

def opensBracket (t : Token) : Bool := t.isSign "(" || t.isSign "[" || t.isSign "\x7b"

def closesBracket (t : Token) : Bool := t.isSign ")" || t.isSign "]" || t.isSign "\x7d"

namespace Nesting

variable (nest : Nesting)

def openBrackets : Reader Nat := do
  let rest ← get
  return nest.depth + rest.countP closesBracket - rest.countP opensBracket

/-- Two expressions in a row inside brackets. -/
def missingComma : Reader Unit := do
  match ← get with
  | .name w :: rest =>
    if beginsKeyword w.text then failure
    match rest.head? with
    | some (.text _) => failure
    | _ => pure ()
  | _ => pure ()
  let first ← nest.read .disjunction
  discard (nest.reader .paused .choice)
  if first.name?.any legacyStatements.contains || (← nest.openBrackets) == 0 then failure
  refuse .comma

def missingAlternative : Reader Unit := do
  discard (nest.read .disjunction)
  expect "if"
  discard (nest.read .disjunction)
  if ← atAny ["else", ":"] then failure
  refuse .alternative

def legacyStatement : Reader Unit := do
  let w ← name
  if ← atSign "(" then failure
  discard nest.expressions
  if legacyStatements.contains w then refuse (.printing w)

def expressionCause : Reader Unit := do
  if nest.alert then
    discard (ahead nest.missingComma)
    discard (ahead nest.missingAlternative)
    discard (ahead nest.legacyStatement)

def namingCause : Reader Unit := do
  let e ← nest.expression
  expect ":="
  discard nest.expression
  refuse (.naming e.kind)

def equalsValue : Reader Unit := do
  expect "="
  discard (nest.read .operand)
  if ← atAny ["=", ":="] then failure

def equalityCause : Reader Unit := do
  discard name
  equalsValue nest
  refuse .equality

def isRow (e : Expr) : Bool :=
  match e.form with
  | .tuple => true
  | .list => true
  | .comprehension .generator _ => true
  | _ => false

def assignmentCause : Reader Unit := do
  if ← atAny ["True", "None", "False"] then failure
  if ← atAny ["(", "["] then
    if (← ahead (nest.read .atom)).any isRow then failure
  let e ← nest.read .operand
  nest.equalsValue
  refuse (.assignment e.kind)

def namedCause : Reader Unit := do
  if nest.alert then
    once .named do
      discard (ahead nest.namingCause)
      discard (ahead nest.equalityCause)
      discard (ahead nest.assignmentCause)

def starredExpression : Reader Expr := starred nest.expression

/-- The causes to look for behind a parenthesis where no rule fits. -/
def groupCause : Reader Unit := do
  let star : Reader Unit := do
    discard nest.starredExpression
    expect ")"
    refuse .starHere
  let spread : Reader Unit := do
    expect "**"
    discard nest.expression
    expect ")"
    refuse .spreadHere
  if nest.alert then
    once .group do
      discard (ahead star)
      discard (ahead spread)

def targetCause : Reader Unit := do
  let stray : Reader Unit := do
    match (← nest.expressions).strayTarget? with
    | some e => refuse (.target e.kind)
    | none => failure
  if nest.alert then discard (ahead stray)

def valueCause : Reader Unit := do
  discard nest.expression
  expect ":"
  if ← take "*" then
    discard (nest.read .operand)
    refuse .starValue
  if ← atAny ["\x7d", ","] then refuse .value
  failure

def colonCause : Reader Unit := do
  discard nest.expression
  if ← atSign ":" then failure
  refuse .colon

/-- The causes to look for behind a brace where no dictionary fits. They are looked for even if
nobody is alert. -/
def dictCause (entry : Reader (Bool × List Expr)) : Reader Unit := do
  let entries : Reader Unit := do
    match ← commaList entry nest.bound with
    | (_, true) =>
      discard (ahead nest.colonCause)
      nest.valueCause
    | _ => failure
  once (.dict nest.alert) do
    discard (ahead entries)
    discard (ahead nest.valueCause)

/-- The causes to look for behind a bracket where no comprehension fits. -/
def comprehensionCause (braces : Bool) (item : Reader Expr) (clauses : Reader Unit) :
    Reader Unit := do
  let starred : Reader Unit := do
    discard nest.starredExpression
    clauses
    refuse .starInComprehension
  let unparenthesized : Reader Unit := do
    match ← commaList item nest.bound with
    | ([_], false) => failure
    | _ =>
      clauses
      refuse .comprehensionTarget
  if nest.alert then
    once .comprehension do
      discard (ahead starred)
      if braces then discard (ahead unparenthesized)

def spreadCause (clauses : Reader Unit) : Reader Unit := do
  let spread : Reader Unit := do
    expect "**"
    discard (nest.read .operand)
    clauses
    expect "\x7d"
    refuse .spreadInComprehension
  if nest.alert then discard (ahead spread)

end Nesting

end TypedTemplate.ClassSource
