import TypedTemplate.ClassSource.Expr
import TypedTemplate.ClassSource.Token

/-! Statements of class sources, as far as they matter for the classes in them. -/
namespace TypedTemplate.ClassSource

/-- A statement that only holds others, such as a loop, is the list of its parts. -/
inductive Stmt where
  | classDef (name : PlainName) (bases : List Expr) (body : List Stmt)
  | function (isAsync : Bool) (name : String) (params : List (String × Option Expr))
      (returns : Option Expr) (body : List Stmt)
  | annotated (target annotation : Expr) (value : Option Expr)
  | assign (targets : List Expr) (value : Expr)
  | augmented (target value : Expr)
  | importFrom (source : Option String) (level : Nat) (names : List (PlainName × Option PlainName))
  | block (parts : List Stmt)
  | other

namespace Stmt

def merge {α : Type} : List (List α) → List (List α) → List (List α)
  | a :: as, b :: bs => (a ++ b) :: merge as bs
  | [], bs => bs
  | as, [] => as

mutual

/-- The statement, then what stands directly in it, and so on downwards. -/
def layers : Stmt → List (List Stmt)
  | classDef n bs body => [classDef n bs body] :: layersOf body
  | function a n ps r body => [function a n ps r body] :: layersOf body
  | block parts => [block parts] :: layersOf parts
  | annotated t a v => [[annotated t a v]]
  | assign ts v => [[assign ts v]]
  | augmented t v => [[augmented t v]]
  | importFrom s l ns => [[importFrom s l ns]]
  | other => [[other]]

def layersOf : List Stmt → List (List Stmt)
  | [] => []
  | s :: ss => merge (layers s) (layersOf ss)

end

def walk (body : List Stmt) : List Stmt := (layersOf body).flatten

end Stmt

end TypedTemplate.ClassSource
