import TypedTemplate.Template.Scan

/-! Syntax trees of templates. Expressions keep the line at which messages place them. Of assignment
targets, those of loops are kept. -/
namespace TypedTemplate.Template

/-- Expressions of which nothing is checked but their parts, in the order in which the parts are
visited. -/
inductive Form where
  | tuple | list | dict | conditional | or | and | not | compare
  | add | sub | mul | div | floordiv | mod | pow | concat | neg | pos | slice | test

/-- The arguments of a call by kind: so many by position, these by name, and possibly a spread list
or table. -/
structure ArgShape where
  positional : Nat
  named : List String
  spread : Bool

/-- The parts of a filter are its input, where it has one, and its arguments; the arguments of a
call or filter stand in the order by position, by name, spread. -/
inductive Expr where
  | name (line : Nat) (id : String)
  | constant (line : Nat) (text : Option String)
  | compound (line : Nat) (form : Form) (parts : List Expr)
  | attr (line : Nat) (base : Expr) (name : String)
  | item (line : Nat) (base index : Expr)
  | call (line : Nat) (callee : Expr) (shape : ArgShape) (args : List Expr)
  | filter (line : Nat) (name : String) (shape : ArgShape) (parts : List Expr)

inductive Block where
  | definition | call | filter | binding | named | capture | escaping

inductive Stmt where
  | text (data : String)
  | output (value : Expr)
  | print (values : List Expr)
  | evaluate (value : Expr)
  | jump
  | loop (target iterable : Expr) (body otherwise : List Stmt)
  | conditional (test : Expr) (body alternatives otherwise : List Stmt)
  | block (kind : Block) (before : List Expr) (body : List Stmt) (after : List Expr)

namespace Form

def word : Form → String
  | tuple => "tuple"
  | list => "list"
  | dict => "dict"
  | conditional => "condexpr"
  | or => "or"
  | and => "and"
  | not => "not"
  | compare => "compare"
  | add => "add"
  | sub => "sub"
  | mul => "mul"
  | div => "div"
  | floordiv => "floordiv"
  | mod => "mod"
  | pow => "pow"
  | concat => "concat"
  | neg => "neg"
  | pos => "pos"
  | slice => "slice"
  | test => "test"

end Form

namespace Expr

def line : Expr → Nat
  | name l _ => l
  | constant l _ => l
  | compound l _ _ => l
  | attr l _ _ => l
  | item l _ _ => l
  | call l _ _ _ => l
  | filter l _ _ _ => l

/-- How messages call an expression. -/
def word : Expr → String
  | name _ _ => "name"
  | constant _ _ => "const"
  | compound _ form _ => form.word
  | attr _ _ _ => "getattr"
  | item _ _ _ => "getitem"
  | call _ _ _ _ => "call"
  | filter _ _ _ _ => "filter"

def isReserved (id : String) : Bool :=
  id == "true" || id == "false" || id == "none" || id == "True" || id == "False" || id == "None"

mutual
def assignable : Expr → Bool
  | name _ id => !isReserved id
  | compound _ .tuple parts => assignableAll parts
  | _ => false

def assignableAll : List Expr → Bool
  | [] => true
  | e :: es => e.assignable && assignableAll es
end

def name? : Expr → Option String
  | name _ id => some id
  | _ => none

def isCall : Expr → Bool
  | call _ _ _ _ => true
  | _ => false

end Expr

def Stmt.isBlank : Stmt → Bool
  | text data => data.toList.all Text.isBlank
  | print [] => true
  | _ => false

end TypedTemplate.Template
