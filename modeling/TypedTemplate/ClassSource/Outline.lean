import TypedTemplate.ClassSource.Parse
import TypedTemplate.ClassSource.Render
import TypedTemplate.Table

/-! Classes as their fields, methods and bases. -/
namespace TypedTemplate.ClassSource

structure Outline where
  name : String
  fields : Table String
  methods : Table String
  bases : List String

namespace Outline

/-- Bases that are names, with or without dots. -/
def baseNames (bases : List Expr) : Option (List String) :=
  let names := bases.filter fun e =>
    match e.form with
    | .name _ => true
    | .attr _ => true
    | _ => false
  names.mapM Expr.render

def enumBases : List String := ["Enum", "IntEnum", "Flag", "IntFlag", "StrEnum"]

def isEnum (bases : List String) : Bool :=
  bases.any fun b => enumBases.contains b || Text.occurs "Enum".toList b.toList

def parameter (p : String × Option Expr) : Option String :=
  match p.2 with
  | some a => a.render.map fun a => p.1 ++ ": " ++ a
  | none => some p.1

def signature (name : String) (params : List (String × Option Expr)) (returns : Option Expr) :
    Option String := do
  let ps ← params.mapM parameter
  let head := "def " ++ name ++ "(" ++ Text.joinWith ", " ps ++ ")"
  match returns with
  | some r => return head ++ " -> " ++ (← r.render)
  | none => return head

def anyType : String := "Any"

def addParameter (fields : Table String) (p : String × Option Expr) : Option (Table String) :=
  match p.2 with
  | some a => a.render.map fun a => fields.insert p.1 a
  | none => some (fields.insert p.1 anyType)

def ownAttribute? (target : Expr) : Option String :=
  match target with
  | .mk (.attr field) [.mk (.name "self") _] => some field
  | _ => none

def ownAttributes (body : List Stmt) : List String :=
  (Stmt.walk body).flatMap fun s =>
    match s with
    | .assign targets _ => targets.filterMap ownAttribute?
    | _ => []

def addOwn (fields : Table String) (field : String) : Table String :=
  if fields.has field then fields else fields.insert field anyType

def isPrivate (name : String) : Bool := name.toList.head? == some '_'

/-- A class after one more statement of its body. -/
def add (enum : Bool) (o : Outline) : Stmt → Option Outline
  | .annotated target a _ =>
    match target.name? with
    | some n => a.render.map fun a => { o with fields := o.fields.insert n a }
    | none => some o
  | .assign targets value =>
    let members := (targets.filterMap Expr.name?).filter fun n => !isPrivate n
    if enum && !members.isEmpty then
      value.render.map fun v =>
        { o with fields := members.foldl (fun fs n => fs.insert n v) o.fields }
    else some o
  | .function false name params returns body => do
    let o := { o with methods := o.methods.insert name (← signature name params returns) }
    if name == "__init__" then
      let fields ← (params.drop 1).foldlM addParameter o.fields
      return { o with fields := (ownAttributes body).foldl addOwn fields }
    return o
  | _ => some o

def ofClass (name : String) (bases : List Expr) (body : List Stmt) : Option Outline := do
  let bases ← baseNames bases
  body.foldlM (add (isEnum bases)) ⟨name, [], [], bases⟩

/-- The classes of a source in walking order, up to the first that cannot be written out, and
whether that was all. -/
def collect : List Stmt → List Outline × Bool
  | [] => ([], true)
  | .classDef name bases body :: rest =>
    match ofClass name.text bases body with
    | some o =>
      let (os, complete) := collect rest
      (o :: os, complete)
    | none => ([], false)
  | _ :: rest => collect rest

end Outline

end TypedTemplate.ClassSource
