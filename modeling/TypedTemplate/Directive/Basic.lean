import TypedTemplate.Position
import TypedTemplate.TypeExpr.Parse

/-! What an annotation comment may say, and its printed form. -/
namespace TypedTemplate

structure ImportedName where
  name : String
  «alias» : Option String

structure TypedName where
  name : String
  type : TypeExpr

structure Parameter where
  name : String
  type : TypeExpr
  fallback : Option String

structure MacroSignature where
  name : String
  params : List Parameter
  result : TypeExpr

inductive Directive where
  | importModule (module : String)
  | importFrom (module : String) (names : List ImportedName)
  | varTypes (decls : List TypedName)
  | filter (decl : TypedName)
  | macroSignature (decl : MacroSignature)
  | ignore

/-- A directive with the place and the text of its comment. -/
structure Comment where
  position : Position
  raw : String
  directive : Directive

namespace ImportedName

/-- The name under which the import is known in the template. -/
def bound (n : ImportedName) : String :=
  match n.alias with
  | some a => if a.isEmpty then n.name else a
  | none => n.name

def render (n : ImportedName) : String :=
  match n.alias with
  | some a => if a.isEmpty then n.name else n.name ++ " as " ++ a
  | none => n.name

end ImportedName

def TypedName.render (d : TypedName) : String := d.name ++ ": " ++ d.type.render

def Parameter.render (p : Parameter) : String :=
  p.name ++ ": " ++ p.type.render ++
    match p.fallback with
    | some d => " = " ++ d
    | none => ""

def MacroSignature.render (m : MacroSignature) : String :=
  "macro " ++ m.name ++ "(" ++ Text.joinWith ", " (m.params.map Parameter.render) ++ ") -> " ++
    m.result.render

namespace Directive

/-- The printed form of each declaration that a directive makes. -/
def renderDeclarations : Directive → List String
  | importModule m => ["import " ++ m]
  | importFrom m names =>
    ["from " ++ m ++ " import " ++ Text.joinWith ", " (names.map ImportedName.render)]
  | varTypes decls => decls.map TypedName.render
  | filter d => ["filter " ++ d.render]
  | macroSignature d => [d.render]
  | ignore => []

end Directive

end TypedTemplate
