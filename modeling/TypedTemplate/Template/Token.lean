import TypedTemplate.Text.CharName

/-! Tokens of a template, and how messages call them. -/
namespace TypedTemplate.Template

inductive Operator where
  | add | sub | div | floordiv | mul | mod | pow | tilde
  | lbracket | rbracket | lparen | rparen | lbrace | rbrace
  | eq | ne | gt | gteq | lt | lteq
  | assign | dot | colon | pipe | comma | semicolon
deriving DecidableEq

inductive TokenKind where
  | data (text : String)
  | variableBegin
  | variableEnd
  | blockBegin
  | blockEnd
  | name (text : String)
  | string (text : String)
  | integer
  | float
  | operator (op : Operator)
  | endOfTemplate
deriving DecidableEq

structure Token where
  line : Nat
  kind : TokenKind

namespace Operator

def text : Operator → String
  | add => "+"
  | sub => "-"
  | div => "/"
  | floordiv => "//"
  | mul => "*"
  | mod => "%"
  | pow => "**"
  | tilde => "~"
  | lbracket => "["
  | rbracket => "]"
  | lparen => "("
  | rparen => ")"
  | lbrace => "\x7b"
  | rbrace => "\x7d"
  | eq => "=="
  | ne => "!="
  | gt => ">"
  | gteq => ">="
  | lt => "<"
  | lteq => "<="
  | assign => "="
  | dot => "."
  | colon => ":"
  | pipe => "|"
  | comma => ","
  | semicolon => ";"

/-- The operator at the start of a text, the longest that fits, and what follows it. -/
def read? : List Char → Option (Operator × List Char)
  | '/' :: '/' :: s => some (floordiv, s)
  | '*' :: '*' :: s => some (pow, s)
  | '=' :: '=' :: s => some (eq, s)
  | '!' :: '=' :: s => some (ne, s)
  | '>' :: '=' :: s => some (gteq, s)
  | '<' :: '=' :: s => some (lteq, s)
  | '+' :: s => some (add, s)
  | '-' :: s => some (sub, s)
  | '/' :: s => some (div, s)
  | '*' :: s => some (mul, s)
  | '%' :: s => some (mod, s)
  | '~' :: s => some (tilde, s)
  | '[' :: s => some (lbracket, s)
  | ']' :: s => some (rbracket, s)
  | '(' :: s => some (lparen, s)
  | ')' :: s => some (rparen, s)
  | '{' :: s => some (lbrace, s)
  | '}' :: s => some (rbrace, s)
  | '>' :: s => some (gt, s)
  | '<' :: s => some (lt, s)
  | '=' :: s => some (assign, s)
  | '.' :: s => some (dot, s)
  | ':' :: s => some (colon, s)
  | '|' :: s => some (pipe, s)
  | ',' :: s => some (comma, s)
  | ';' :: s => some (semicolon, s)
  | _ => none

def closer? : Operator → Option Operator
  | lbracket => some rbracket
  | lparen => some rparen
  | lbrace => some rbrace
  | _ => none

def isCloser : Operator → Bool
  | rbracket => true
  | rparen => true
  | rbrace => true
  | _ => false

end Operator

/-- How messages call a token: a name by its text, an operator by its sign, any other by its
kind. -/
def TokenKind.describe : TokenKind → String
  | data _ => "template data / text"
  | variableBegin => "begin of print statement"
  | variableEnd => "end of print statement"
  | blockBegin => "begin of statement block"
  | blockEnd => "end of statement block"
  | name s => s
  | string _ => "string"
  | integer => "integer"
  | float => "float"
  | operator op => op.text
  | endOfTemplate => "end of template"

def TokenKind.name? : TokenKind → Option String
  | name s => some s
  | _ => none

def TokenKind.word? : TokenKind → Option String
  | name s => some s
  | string s => some s
  | _ => none

end TypedTemplate.Template
