import TypedTemplate.Toml.Document
import TypedTemplate.Toml.Quote
import TypedTemplate.Toml.Scalar

/-! Reading settings documents. Every step leaves less to read, so the length of the text is enough
fuel. -/
namespace TypedTemplate.Toml

def isKeyChar (c : Char) : Bool := c.isAlphanum || c == '-' || c == '_'

def isKeyStart (c : Char) : Bool := isKeyChar c || c == '"' || c == '\''

def keyPart (s : List Char) : Except Fault (String × List Char) := do
  match s with
  | '\'' :: rest =>
    let (text, rest) ← plain "'" isIllegal rest
    pure (String.ofList text, rest)
  | '"' :: rest =>
    let (text, rest) ← basic false rest
    pure (String.ofList text, rest)
  | c :: _ =>
    if isKeyChar c then pure (String.ofList (s.takeWhile isKeyChar), s.dropWhile isKeyChar)
    else throw ⟨.keyStart, s⟩
  | [] => throw ⟨.keyStart, s⟩

/-- Parts divided by dots, with blanks around them. -/
def keyFrom : Nat → List Char → Except Fault (Key × List Char)
  | 0, s => .error ⟨.keyStart, s⟩
  | n + 1, s => do
    let (part, s) ← keyPart s
    match skipBlanks s with
    | '.' :: s =>
      let (parts, s) ← keyFrom n (skipBlanks s)
      pure (part :: parts, s)
    | s => pure ([part], s)

def key (s : List Char) : Except Fault (Key × List Char) := keyFrom (s.length + 1) s

def skipComment (s : List Char) : Except Fault (List Char) :=
  match s with
  | '#' :: s =>
    let text := s.takeWhile (· != '\n')
    let rest := s.dropWhile (· != '\n')
    match firstIllegal isIllegal text rest with
    | some fault => .error fault
    | none => .ok rest
  | _ => .ok s

def skipSpaceFrom : Nat → List Char → Except Fault (List Char)
  | 0, s => .ok s
  | n + 1, s =>
    match s.dropWhile isSpace with
    | '#' :: s => do
      let s ← skipComment ('#' :: s)
      skipSpaceFrom n s
    | s => .ok s

def skipSpace (s : List Char) : Except Fault (List Char) := skipSpaceFrom (s.length + 1) s

section

variable (value : List Char → Except Fault (Value × List Char))

def pair (s : List Char) : Except Fault ((Key × Value) × List Char) := do
  let (k, s) ← key s
  match s with
  | '=' :: s =>
    let (v, s) ← value (skipBlanks s)
    pure ((k, v), s)
  | s => throw ⟨.equals, s⟩

/-- The elements of an array up to its closing bracket; a comma may follow the last one. -/
def elements : Nat → List Char → Except Fault (List Value × List Char)
  | 0, s => .error ⟨.arrayOpen, s⟩
  | n + 1, s => do
    match ← skipSpace s with
    | ']' :: s => pure ([], s)
    | s =>
      let (v, s) ← value s
      match ← skipSpace s with
      | ']' :: s => pure ([v], s)
      | ',' :: s =>
        let (vs, s) ← elements n s
        pure (v :: vs, s)
      | s => throw ⟨.arrayOpen, s⟩

/-- The entries of a table up to its closing brace; no comma follows the last one. -/
def entries : Nat → Inline → List Char → Except Fault (Table Value × List Char)
  | 0, _, s => .error ⟨.inlineOpen, s⟩
  | n + 1, t, s => do
    let ((k, v), s) ← pair value s
    match t.put k v with
    | .error cause => throw ⟨cause, s⟩
    | .ok t =>
      match skipBlanks s with
      | '}' :: s => pure (t.entries, s)
      | ',' :: s => entries n t (skipBlanks s)
      | s => throw ⟨.inlineOpen, s⟩

def inlineTable (s : List Char) : Except Fault (Table Value × List Char) :=
  match skipBlanks s with
  | '}' :: s => .ok ([], s)
  | s => entries value (s.length + 1) ⟨[], []⟩ s

end

def valueFrom : Nat → List Char → Except Fault (Value × List Char)
  | 0, s => .error ⟨.value, s⟩
  | n + 1, s =>
    match quotedText? s with
    | some r => do
      let (text, s) ← r
      pure (.text (String.ofList text), s)
    | none =>
      match s with
      | 't' :: 'r' :: 'u' :: 'e' :: s => .ok (.truth true, s)
      | 'f' :: 'a' :: 'l' :: 's' :: 'e' :: s => .ok (.truth false, s)
      | '[' :: s => do
        let (vs, s) ← elements (valueFrom n) (s.length + 1) s
        pure (.list vs, s)
      | '{' :: s => do
        let (t, s) ← inlineTable (valueFrom n) s
        pure (.table t, s)
      | s => scalar s

def value (s : List Char) : Except Fault (Value × List Char) := valueFrom (s.length + 1) s

def within (rest : List Char) (r : Except Cause Document) : Except Fault Document :=
  match r with
  | .ok d => .ok d
  | .error cause => .error ⟨cause, rest⟩

/-- A header in double brackets opens a new table of an array, one in single brackets a table. -/
def header (d : Document) (s : List Char) : Except Fault (Document × List Char) := do
  match s with
  | '[' :: '[' :: s =>
    let (k, s) ← key (skipBlanks s)
    let d ← within s (d.settle.openElement k)
    match s with
    | ']' :: ']' :: s => pure (d, s)
    | s => throw ⟨.arrayTableEnd, s⟩
  | s =>
    let (k, s) ← key (skipBlanks (s.drop 1))
    let d ← within s (d.settle.openTable k)
    match s with
    | ']' :: s => pure (d, s)
    | s => throw ⟨.tableEnd, s⟩

/-- A header, an entry, or nothing in front of a comment. -/
def statement (d : Document) (s : List Char) : Except Fault (Document × List Char) :=
  match s with
  | [] => .ok (d, [])
  | '[' :: _ => header d s
  | '#' :: _ => .ok (d, s)
  | c :: _ =>
    if isKeyStart c then do
      let ((k, v), s) ← pair value s
      let d ← within s (d.put k v)
      pure (d, s)
    else .error ⟨.statement, s⟩

def statements : Nat → Document → List Char → Except Fault Document
  | 0, d, _ => .ok d
  | n + 1, d, s =>
    match skipBlanks s with
    | [] => .ok d
    | '\n' :: s => statements n d s
    | s => do
      let (d, s) ← statement d s
      match ← skipComment (skipBlanks s) with
      | [] => pure d
      | '\n' :: s => statements n d s
      | s => throw ⟨.statementEnd, s⟩

def joinBreaks : List Char → List Char
  | '\r' :: '\n' :: s => '\n' :: joinBreaks s
  | c :: s => c :: joinBreaks s
  | [] => []

def parse (text : List Char) : Except Error (Table Value) :=
  let source := joinBreaks text
  match statements (source.length + 1) .empty source with
  | .ok d => .ok d.root
  | .error fault => .error ⟨fault.cause, placeOf source fault.rest⟩

end TypedTemplate.Toml
