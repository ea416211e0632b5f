import TypedTemplate.FileTree.Path
import TypedTemplate.Toml.Value

/-! Values of settings that turn out to be of the wrong kind where they are used. Settings are not
checked before. -/
namespace TypedTemplate.Settings
open Toml (Value)

/-- The name of a value's kind, as messages give it. -/
def kind : Value → String
  | .text _ => "str"
  | .whole _ => "int"
  | .real _ => "float"
  | .truth _ => "bool"
  | .date _ => "datetime.date"
  | .clock _ => "datetime.time"
  | .moment _ _ _ => "datetime.datetime"
  | .list _ => "list"
  | .table _ => "dict"
  | .none => "NoneType"

def shortKind (v : Value) : String :=
  match v with
  | .date _ => "date"
  | .clock _ => "time"
  | .moment _ _ _ => "datetime"
  | _ => kind v

inductive Misuse where
  /-- The value has no such member. -/
  | member (v : Value) (name : String)
  /-- The value has no items. -/
  | items (v : Value)
  /-- The value cannot hold another. -/
  | container (v : Value)
  /-- The value has no parts. -/
  | subscript (v : Value)
  /-- The value is no path. -/
  | path (v : Value)
  /-- The value cannot extend a path. -/
  | segment (v : Value)

def Misuse.message : Misuse → String
  | member v name => "'" ++ kind v ++ "' object has no attribute '" ++ name ++ "'"
  | items v => "'" ++ kind v ++ "' object is not iterable"
  | container v => "argument of type '" ++ kind v ++ "' is not iterable"
  | subscript v => "'" ++ kind v ++ "' object is not subscriptable"
  | path v => "expected str, bytes or os.PathLike object, not " ++ shortKind v
  | segment v => "unsupported operand type(s) for /: 'PosixPath' and '" ++ kind v ++ "'"

def itemsOf : Value → Except Misuse (List Value)
  | .list vs => .ok vs
  | .text s => .ok (s.toList.map fun c => .text (String.singleton c))
  | .table t => .ok (t.map fun e => .text e.1)
  | v => .error (.items v)

def textsOf (misuse : Value → Misuse) (v : Value) : Except Misuse (List String) := do
  (← itemsOf v).mapM fun item =>
    match item with
    | .text s => .ok s
    | v => .error (misuse v)

def pathOf : Value → Except Misuse Path
  | .text s => .ok (.ofText s)
  | v => .error (.path v)

def segmentOf : Value → Except Misuse String
  | .text s => .ok s
  | v => .error (.segment v)

/-- Zero, the empty texts, lists and tables, and no value at all do not hold. -/
def holds : Value → Bool
  | .text s => s != ""
  | .whole n => n != 0
  | .real (.signed _ (.finite 0 _)) => false
  | .truth b => b
  | .list vs => !vs.isEmpty
  | .table t => !t.isEmpty
  | .none => false
  | _ => true

end TypedTemplate.Settings
