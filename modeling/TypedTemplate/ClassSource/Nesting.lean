import TypedTemplate.ClassSource.Expr
import TypedTemplate.ClassSource.Reader

/-! Readers of nested expressions, as a parameter of the grammar. -/
namespace TypedTemplate.ClassSource
open Reader

/-- The places where an expression nests in another. -/
inductive Nested where
  | expression
  | choice
  | disjunction
  | negation
  | operand
  | factor
  | primary
  | atom

inductive Watch where
  | off
  | alert
  | paused

/-- Readers of nested expressions, a bound on the number of items in a row, and the number of
brackets that are open at the end of the source. -/
structure Nesting where
  reader : Watch → Nested → Reader Expr
  bound : Nat
  depth : Nat
  watch : Watch

namespace Nesting

variable (nest : Nesting)

def read : Nested → Reader Expr := nest.reader nest.watch

def alert : Bool :=
  match nest.watch with
  | .alert => true
  | _ => false

/-- Reads at a place. One that was read before in the search for a cause is not searched again. -/
def visit (c : Check) (r : Nesting → Reader Expr) : Reader Expr := do
  match nest.watch with
  | .off => r nest
  | _ => if ← fresh c then r nest else r { nest with watch := .paused }

def expression : Reader Expr := nest.read .expression

def starred (inner : Reader Expr) : Reader Expr := do
  expect "*"
  return .mk .starred [← inner]

def starredOr (other : Reader Expr) : Reader Expr := do
  if ← atSign "*" then starred (nest.read .operand) else other

def row (item : Reader Expr) : Reader Expr := do
  match ← commaList item nest.bound with
  | ([e], false) => return e
  | (es, _) => return .mk .tuple es

def expressions : Reader Expr := nest.row (nest.starredOr nest.expression)

def assigned : Reader Expr := do
  if ← atNameThen ":=" then
    let target ← name
    expect ":="
    return .mk .named [.leaf (.name target), ← nest.expression]
  nest.expression

def judge {α : Type} (r : Nesting → Reader α) (tokens : List Token) : Except Fault α := do
  match ← (r { nest with watch := .off }).outcome tokens with
  | some (a, _) => .ok a
  | none =>
    discard ((r { nest with watch := .alert }).outcome tokens)
    .error .general

end Nesting

end TypedTemplate.ClassSource
