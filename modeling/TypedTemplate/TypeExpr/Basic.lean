import TypedTemplate.Text.Bracket

/-! Type expressions as they stand in annotations, and their printed form. -/
namespace TypedTemplate

/-- How a union is spelled: `A | B`, `Union[A, B]` or `Optional[A]`. -/
inductive UnionStyle where
  | pipe
  | union
  | optional
deriving DecidableEq

/-- Each node keeps the text it was read from. -/
inductive TypeExpr where
  | named (raw name : String) (module : Option String)
  | generic (raw name : String) (module : Option String) (args : List TypeExpr)
  | union (raw : String) (style : UnionStyle) (members : List TypeExpr)

namespace UnionStyle

def name : UnionStyle → String
  | pipe => "Union"
  | union => "Union"
  | optional => "Optional"

def module : UnionStyle → Option String
  | pipe => none
  | union => some "typing"
  | optional => some "typing"

end UnionStyle

namespace TypeExpr

def raw : TypeExpr → String
  | named r _ _ => r
  | generic r _ _ _ => r
  | union r _ _ => r

def name : TypeExpr → String
  | named _ n _ => n
  | generic _ n _ _ => n
  | union _ style _ => style.name

def module : TypeExpr → Option String
  | named _ _ m => m
  | generic _ _ m _ => m
  | union _ style _ => style.module

def args? : TypeExpr → Option (List TypeExpr)
  | generic _ _ _ as => some as
  | _ => none

def members? : TypeExpr → Option (List TypeExpr)
  | union _ _ ms => some ms
  | _ => none

def args (t : TypeExpr) : List TypeExpr := t.args?.getD []

def members (t : TypeExpr) : List TypeExpr := t.members?.getD []

def isUnion (t : TypeExpr) : Bool := t.members?.isSome

def qualify (module : Option String) (name : String) : String :=
  match module with
  | none => name
  | some m => if m.isEmpty then name else m ++ "." ++ name

def qualifiedName (t : TypeExpr) : String := qualify t.module t.name

def noneType : TypeExpr := named "None" "None" none

mutual
/-- The printed form. Unions are written with bars, whatever their style; an empty list of arguments
or members is not written. -/
def render : TypeExpr → String
  | named _ n m => qualify m n
  | generic _ n m [] => qualify m n
  | generic _ n m (a :: as) => qualify m n ++ "[" ++ Text.joinWith ", " (renderAll (a :: as)) ++ "]"
  | union _ style [] => qualify style.module style.name
  | union _ _ (t :: ts) => Text.joinWith " | " (renderAll (t :: ts))

def renderAll : List TypeExpr → List String
  | [] => []
  | t :: ts => t.render :: renderAll ts
end

theorem renderAll_eq_map (ts : List TypeExpr) : renderAll ts = ts.map render := by
  induction ts with
  | nil => simp [renderAll]
  | cons t ts ih => simp [renderAll, ih]

end TypeExpr

end TypedTemplate
