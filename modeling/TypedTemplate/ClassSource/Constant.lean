import TypedTemplate.ClassSource.ExprGrammar
import TypedTemplate.Text.Lines

/-! Sources that are one constant: a literal, or a collection of constants. -/
namespace TypedTemplate.ClassSource
open Reader

/-- Why an expression has no constant value. -/
inductive ConstantFault where
  | source (cause : Fault)
  /-- It is more than a constant. -/
  | unsettled
  /-- A dictionary is spread in another. -/
  | missingKey
  /-- A collection that may change is an item of a set or a key. -/
  | unhashable (kind : String)

inductive Constancy where
  | fixed
  | mutable (kind : String)

namespace Constancy

def and : Constancy → Constancy → Constancy
  | fixed, c => c
  | c, _ => c

def hashed : Constancy → Except ConstantFault Unit
  | fixed => .ok ()
  | mutable kind => .error (.unhashable kind)

end Constancy

namespace Expr

def isNumber (e : Expr) : Bool :=
  match e.form with
  | .number _ => true
  | _ => false

def isImaginary (e : Expr) : Bool :=
  match e.form with
  | .number (.imaginary _) => true
  | _ => false

def isSigned (e : Expr) : Bool :=
  match e with
  | mk (.unary s) [n] => s != "not" && s != "~" && n.isNumber
  | _ => e.isNumber

def isSignedImaginary (e : Expr) : Bool :=
  match e with
  | mk (.unary _) [n] => n.isImaginary
  | _ => e.isImaginary

def isComplexSum (sign : String) (left right : Expr) : Bool :=
  (sign == "+" || sign == "-") && left.isSigned && !left.isSignedImaginary && right.isImaginary

mutual

/-- Whether an expression is a constant, and of what use. -/
def constancy : Expr → Except ConstantFault Constancy
  | mk (.number _) _ => .ok .fixed
  | mk (.text _ _) _ => .ok .fixed
  | mk (.bytes _) _ => .ok .fixed
  | mk (.truth _) _ => .ok .fixed
  | mk .none _ => .ok .fixed
  | mk .ellipsis _ => .ok .fixed
  | mk .tuple ps => rowConstancy ps
  | mk .list ps => do
    discard (rowConstancy ps)
    .ok (.mutable "list")
  | mk .set ps => do
    hashedItems ps
    .ok (.mutable "set")
  | mk (.call []) [mk (.name "set") _] => .ok (.mutable "set")
  | mk (.dict keyed) ps => do
    hashedKeys keyed ps
    .ok (.mutable "dict")
  | mk (.binary s _) [a, b] => if isComplexSum s a b then .ok .fixed else .error .unsettled
  | mk (.unary s) [n] => if (mk (.unary s) [n]).isSigned then .ok .fixed else .error .unsettled
  | _ => .error .unsettled

def rowConstancy : List Expr → Except ConstantFault Constancy
  | [] => .ok .fixed
  | e :: es => do
    let c ← constancy e
    .ok (c.and (← rowConstancy es))

def hashedItems : List Expr → Except ConstantFault Unit
  | [] => .ok ()
  | e :: es => do
    (← constancy e).hashed
    hashedItems es

/-- Entries go into a dictionary one by one, with the value read before the key is used. -/
def hashedKeys : List Bool → List Expr → Except ConstantFault Unit
  | true :: ks, k :: v :: es => do
    let c ← constancy k
    discard (constancy v)
    c.hashed
    hashedKeys ks es
  | false :: _, _ => .error .missingKey
  | _, _ => .ok ()

end

end Expr

def unindented : Reader Unit := do
  match ← peek with
  | some .indent => refuse .indentation
  | _ => return ()

def wholeSource (nest : Nesting) : Reader Expr := do
  unindented
  let e ← nest.row nest.expression
  discard (many lineEnd nest.bound)
  unindented
  if (← peek).isSome then failure
  return e

/-- The expression that a whole source is. A fault in its letters goes before all others but an
indentation. An alert reader may go down twice for a token. -/
def wholeExpr (s : List Char) : Except Fault Expr :=
  let scanned := scan (Text.unifyNewlines s)
  let nest := nesting (s.length + 8) scanned.depth (4 * s.length + 16) .off
  let lexical := scanned.fault.filter Fault.isLexical
  match nest.judge wholeSource scanned.tokens with
  | .ok e => .ok e
  | .error .indentation => .error .indentation
  | .error cause => .error (lexical.getD cause)

def checkConstant (s : List Char) : Except ConstantFault Unit := do
  let e ← (wholeExpr s).mapError ConstantFault.source
  discard e.constancy

end TypedTemplate.ClassSource
