import TypedTemplate.ClassSource.Number

/-! Expressions of class sources. -/
namespace TypedTemplate.ClassSource

/-- How tightly an expression holds together, loosest first. -/
inductive Strength where
  | named
  | tuple
  | yielding
  | test
  | disjunction
  | conjunction
  | negation
  | comparison
  | bitOr
  | bitXor
  | bitAnd
  | shift
  | sum
  | term
  | factor
  | power
  | awaiting
  | atom
  deriving DecidableEq

def Strength.exceeds (asked own : Strength) : Bool := asked.ctorIdx > own.ctorIdx

def Strength.next : Strength → Strength
  | named => tuple
  | tuple => yielding
  | yielding => test
  | test => disjunction
  | disjunction => conjunction
  | conjunction => negation
  | negation => comparison
  | comparison => bitOr
  | bitOr => bitXor
  | bitXor => bitAnd
  | bitAnd => shift
  | shift => sum
  | sum => term
  | term => factor
  | factor => power
  | power => awaiting
  | awaiting => atom
  | atom => atom

inductive Collection where
  | list
  | set
  | generator
  | dict

structure Clause where
  isAsync : Bool
  conditions : Nat

inductive Form where
  | name (id : String)
  | number (n : Number)
  | text (value : List Nat) (marked : Bool)
  | bytes (value : List Nat)
  | truth (value : Bool)
  | none
  | ellipsis
  | attr (name : String)
  | subscript
  | call (keys : List (Option String))
  | starred
  | tuple
  | list
  | set
  | dict (keyed : List Bool)
  | conjunction
  | disjunction
  | binary (sign : String) (strength : Strength)
  | unary (sign : String)
  | compare (signs : List String)
  | conditional
  | lambda (params : List (String × Bool))
  | named
  | await
  | yield
  | yieldFrom
  | comprehension (kind : Collection) (clauses : List Clause)
  | slice (lower upper step : Bool)
  | joined
  | formatted (conversion : Option Char)

/-- The parts come in the order in which they are written. A call's parts are what is called, the
values by position and the values by key; a dictionary's are keys and values, or a spread value
alone; a conditional's are value, test and alternative; a comprehension's are what it yields and
then target, source and conditions of each clause. -/
inductive Expr where
  | mk (form : Form) (parts : List Expr)

namespace Expr

def form : Expr → Form
  | mk f _ => f

def parts : Expr → List Expr
  | mk _ ps => ps

def leaf (f : Form) : Expr := mk f []

def name? (e : Expr) : Option String :=
  match e.form with
  | .name id => some id
  | _ => none

def isPlace (e : Expr) : Bool :=
  match e.form with
  | .name _ => true
  | .attr _ => true
  | .subscript => true
  | _ => false

mutual

/-- A place, or a row of targets. -/
def isTarget : Expr → Bool
  | mk (.name _) _ => true
  | mk (.attr _) _ => true
  | mk .subscript _ => true
  | mk .tuple ps => areTargets ps
  | mk .list ps => areTargets ps
  | mk .starred ps => areUnstarred ps
  | _ => false

def areTargets : List Expr → Bool
  | [] => true
  | e :: es => isTarget e && areTargets es

def areUnstarred : List Expr → Bool
  | [] => true
  | mk .starred _ :: _ => false
  | e :: es => isTarget e && areUnstarred es

end

mutual

/-- What can be deleted: places and rows of them, none with a star. -/
def isErasable : Expr → Bool
  | mk (.name _) _ => true
  | mk (.attr _) _ => true
  | mk .subscript _ => true
  | mk .tuple ps => areErasable ps
  | mk .list ps => areErasable ps
  | _ => false

def areErasable : List Expr → Bool
  | [] => true
  | e :: es => isErasable e && areErasable es

end

end Expr

end TypedTemplate.ClassSource
