import TypedTemplate.ClassSource.Number

/-! Tokens of class sources. -/
namespace TypedTemplate.ClassSource

/-- A text literal as written between its quotes. A mark is a lower-case `u` before them. -/
structure Piece where
  raw : Bool
  bytes : Bool
  formatted : Bool
  marked : Bool
  body : List Char

/-- A name as one word. Dots stand between such names only. -/
structure PlainName where
  text : String
  undotted : '.' ∉ text.toList

inductive Token where
  | name (n : PlainName)
  | sign (text : String)
  | number (n : Number)
  | text (p : Piece)
  | lineEnd
  | indent
  | dedent
  /-- Where the source cannot be cut any further. -/
  | broken (cause : Fault)

def keywords : List String := [
    "False", "None", "True", "and", "as", "assert", "async", "await", "break", "class", "continue",
      "def", "del", "elif",
    "else", "except", "finally", "for", "from", "global", "if", "import", "in", "is", "lambda",
      "nonlocal", "not", "or",
    "pass", "raise", "return", "try", "while", "with", "yield"]

def signs : List String := [
    "**=", "...", "//=", "<<=", ">>=", "!=", "%=", "&=", "**", "*=", "+=", "-=", "->", "//", "/=",
      ":=", "<<", "<=", "<>",
    "==", ">=", ">>", "@=", "^=", "|=", "%", "&", "(", ")", "*", "+", ",", "-", ".", "/", ":", ";",
      "<", "=", ">", "@",
    "[", "]", "^", "\x7b", "|", "\x7d", "~"]

def isPair (opener closer : Char) : Bool :=
  (opener, closer) ∈ [('(', ')'), ('[', ']'), ('\x7b', '\x7d')]

def Token.isSign (s : String) : Token → Bool
  | sign t => t == s
  | _ => false

end TypedTemplate.ClassSource
