import TypedTemplate.ClassIndex.Basic
import TypedTemplate.Issue
import TypedTemplate.Template.Node

/-! Checking how a template uses what it declares. Nothing is reported at an expression on an
ignored line, and its parts are not looked at. -/
namespace TypedTemplate

structure SetOrder where
  list : List String → List String
  perm : ∀ names, (list names).Perm names.eraseDups

def SetOrder.ascending : SetOrder where
  list names := names.eraseDups.mergeSort fun a b => decide (a ≤ b)
  perm names := List.mergeSort_perm names.eraseDups _

/-- What is known about a template before its text is looked at. -/
structure Usage where
  order : SetOrder := .ascending
  filename : String
  lines : List (List Char)
  varTypes : Table TypeExpr
  filters : Table TypeExpr
  macros : Table MacroSignature
  ignored : List Int
  registry : Registry
  index : Option ClassIndex
  /-- Attributes are looked up in the registry, and only those of variables. -/
  byRegistry : Bool

abbrev LoopVariables := Table TypeExpr

mutual
/-- The name under which the attributes of a type are looked up: of a generic type the name of its
first argument, of a union its first member other than `None`. -/
def TypeExpr.baseName : TypeExpr → String
  | .named _ n m => qualify m n
  | .generic _ n m [] => qualify m n
  | .generic _ _ _ (a :: _) => a.name
  | .union _ style ms => (firstBaseName ms).getD (qualify style.module style.name)

def TypeExpr.firstBaseName : List TypeExpr → Option String
  | [] => none
  | t :: ts => if t.name == "None" then firstBaseName ts else some t.baseName
end

namespace Usage
open Template Text

variable (u : Usage)

def isIgnored (line : Nat) : Bool := u.ignored.contains (line : Int)

def columns (lines : List (List Char)) (line : Int) (text : List Char) : Int × Option Int :=
  if line ≤ 0 then (0, none)
  else
    match lines[line.toNat - 1]? with
    | none => (0, none)
    | some l =>
      match cut? text l with
      | some (before, _) => (before.length, some (before.length + text.length))
      | none => (0, none)

def issueAt (line : Nat) (message : String) (hint : Option String) : Issue :=
  ⟨.error, message, u.filename, line, 0, none, hint⟩

def issueUnder (severity : Severity) (line : Nat) (text message hint : String) : Issue :=
  let (start, stop) := columns u.lines line text.toList
  ⟨severity, message, u.filename, line, start, stop, some hint⟩

def attributeTypeOf? (base : TypeExpr) (attr : String) : Option String := do
  let index ← u.index
  if base.baseName.isEmpty then none
  else
    let text ← index.attributeType? base.baseName attr
    if text.isEmpty then none else some text

/-- The type of an expression, as far as the declarations tell. -/
def typeOf? (loops : LoopVariables) : Expr → Option TypeExpr
  | .name _ id => (u.varTypes.find? id).or (loops.find? id)
  | .attr _ base attr => do
    let text ← u.attributeTypeOf? (← typeOf? loops base) attr
    (TypeExpr.parse text).toOption
  | .item _ base index => do
    let t ← typeOf? loops base
    match index with
    | .constant _ (some key) =>
      match u.attributeTypeOf? t key with
      | some text => (TypeExpr.parse text).toOption
      | none => t.args.head?
    | _ => t.args.head?
  | _ => none

def checkName (loops : LoopVariables) (line : Nat) (id : String) : List Issue :=
  if u.isIgnored line || loops.has id || u.varTypes.has id then []
  else
    [u.issueUnder .warning line id ("Variable '" ++ id ++ "' is not declared")
      ("Add declaration: \x7b# typja:var " ++ id ++ ": <type> #\x7d")]

/-- The name under which an attribute is looked up: a plain imported name stands for the class in
its module. -/
def lookupName (t : TypeExpr) : String :=
  match t.module.filter (!·.isEmpty), u.registry.imported.find? t.name with
  | none, some (some d) =>
    match d.module with
    | some m => if m.isEmpty then t.baseName else m ++ "." ++ t.name
    | none => t.baseName
  | _, _ => t.baseName

def checkAttr (loops : LoopVariables) (line : Nat) (base : Expr) (attr : String) : List Issue :=
  match u.typeOf? loops base, u.index with
  | some t, some index =>
    let type := u.lookupName t
    if type.isEmpty then []
    else
      match index.checkAttribute type attr with
      | .ok _ => []
      | .error _ =>
        [u.issueUnder .error line attr ("Type '" ++ type ++ "' has no attribute '" ++ attr ++ "'")
          ("Check the definition of '" ++ type ++ "' for available attributes")]
  | _, _ => []

def checkAttrByRegistry (line : Nat) (base : Expr) (attr : String) : List Issue :=
  match base with
  | .name _ id =>
    match (u.varTypes.find? id).map u.registry.resolve with
    | some (.ok (some d)) =>
      if d.hasField attr || d.hasMethod attr then []
      else [u.issueAt line ("Type '" ++ d.name ++ "' has no attribute '" ++ attr ++ "'") none]
    | _ => []
  | _ => []

def checkItem (loops : LoopVariables) (line : Nat) (base index : Expr) : List Issue :=
  match u.typeOf? loops base, u.index, index with
  | some t, some classes, .constant _ (some key) =>
    if t.baseName.isEmpty then []
    else
      match classes.checkAttribute t.baseName key with
      | .ok _ => []
      | .error e =>
        [u.issueUnder .error line key e.message
          ("Dictionary-style access user['" ++ key ++ "'] requires the attribute to exist")]
  | _, _, _ => []

def argCount (shape : ArgShape) : Nat := shape.positional + shape.named.length

/-- A filter takes its input and the arguments written. -/
def checkFilter (line : Nat) (name : String) (shape : ArgShape) : List Issue :=
  match u.filters.find? name with
  | none => []
  | some t =>
    match t.name == "Callable", t.args with
    | true, first :: _ :: _ =>
      let want := if first.args.isEmpty then 1 else first.args.length
      let got := 1 + argCount shape
      if shape.spread || got == want then []
      else
        [u.issueAt line ("Filter '" ++ name ++ "' expects " ++ toString want ++
          " argument(s) but got " ++ toString got) none]
    | _, _ => []

def checkCall (line : Nat) (callee : Expr) (shape : ArgShape) : List Issue :=
  match callee.name?.bind fun id => (u.macros.find? id).map fun m => (id, m) with
  | none => []
  | some (id, m) =>
    if shape.spread then []
    else
      let required := m.params.filter fun p => p.fallback.isNone
      let got := argCount shape
      let count :=
        if got < required.length then
          [u.issueAt line
            ("Macro '" ++ id ++ "' requires at least " ++ toString required.length ++
              " argument(s) but got " ++ toString got)
            (some ("Required parameters: " ++ joinWith ", " (required.map (·.name))))]
        else if m.params.length < got then
          [u.issueAt line
            ("Macro '" ++ id ++ "' accepts at most " ++ toString m.params.length ++
              " argument(s) but got " ++ toString got) none]
        else []
      let names := m.params.map (·.name)
      let unknown := shape.named.filter fun k => !names.contains k
      count ++ unknown.map fun k =>
        u.issueAt line ("Macro '" ++ id ++ "' has no parameter named '" ++ k ++ "'")
          (some ("Valid parameters: " ++ joinWith ", " (u.order.list names)))

mutual
/-- The issues of an expression and its parts. -/
def visit (loops : LoopVariables) : Expr → List Issue
  | .name line id => u.checkName loops line id
  | .constant _ _ => []
  | .compound _ _ parts => visitAll loops parts
  | .attr line base attr =>
    if u.byRegistry then u.checkAttrByRegistry line base attr ++ visit loops base
    else if u.isIgnored line then []
    else u.checkAttr loops line base attr ++ visit loops base
  | .item line base index =>
    if u.isIgnored line then [] else u.checkItem loops line base index ++ visit loops base ++
      visit loops index
  | .call line callee shape args =>
    if u.isIgnored line then [] else u.checkCall line callee shape ++ visit loops callee ++
      visitAll loops args
  | .filter line name shape parts =>
    if u.isIgnored line then [] else u.checkFilter line name shape ++ visitAll loops parts

def visitAll (loops : LoopVariables) : List Expr → List Issue
  | [] => []
  | e :: es => visit loops e ++ visitAll loops es
end

def itemType? (iterable : Expr) : Option TypeExpr :=
  (iterable.name?.bind u.varTypes.find?).bind fun t => t.args.head?

def enterLoop (target : Option String) (iterable : Expr) (loops : LoopVariables) : LoopVariables :=
  match target, u.itemType? iterable with
  | some id, some t => loops.insert id t
  | _, _ => loops

def leaveLoop (target : Option String) (loops : LoopVariables) : LoopVariables :=
  match target with
  | some id => loops.erase id
  | none => loops

mutual
/-- The issues of a statement, and the loop variables known behind it. A loop's iterable is not
checked. -/
def visitStmt (loops : LoopVariables) : Stmt → List Issue × LoopVariables
  | .text _ => ([], loops)
  | .output e => (u.visit loops e, loops)
  | .print es => (u.visitAll loops es, loops)
  | .evaluate e => (u.visit loops e, loops)
  | .jump => ([], loops)
  | .loop target iterable body otherwise =>
    let (found, inside) := visitStmts (u.enterLoop target.name? iterable loops) body
    let (more, behind) := visitStmts (leaveLoop target.name? inside) otherwise
    (found ++ more, behind)
  | .conditional test body alternatives otherwise =>
    let (inBody, loops₁) := visitStmts loops body
    let (inAlternatives, loops₂) := visitStmts loops₁ alternatives
    let (inElse, loops₃) := visitStmts loops₂ otherwise
    (u.visit loops test ++ inBody ++ inAlternatives ++ inElse, loops₃)
  | .block _ before body after =>
    let (inBody, behind) := visitStmts loops body
    (u.visitAll loops before ++ inBody ++ u.visitAll behind after, behind)

def visitStmts (loops : LoopVariables) : List Stmt → List Issue × LoopVariables
  | [] => ([], loops)
  | s :: ss =>
    let (found, loops₁) := visitStmt loops s
    let (more, loops₂) := visitStmts loops₁ ss
    (found ++ more, loops₂)
end

def issues (stmts : List Stmt) : List Issue := (u.visitStmts [] stmts).1

end Usage

end TypedTemplate
