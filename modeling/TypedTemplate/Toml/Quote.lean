import TypedTemplate.Text.Escape
import TypedTemplate.Text.Search
import TypedTemplate.Toml.Error

/-! The four kinds of quoted text in a settings document: with or without escapes, on one line or on
many. -/
namespace TypedTemplate.Toml

def isControl (c : Char) : Bool := c.toNat < 32 || c.toNat == 127

def isIllegal (c : Char) : Bool := isControl c && c != '\t'

def isIllegalInLines (c : Char) : Bool := isIllegal c && c != '\n'

def isBlank (c : Char) : Bool := c == ' ' || c == '\t'

def isSpace (c : Char) : Bool := isBlank c || c == '\n'

def skipBlanks (s : List Char) : List Char := s.dropWhile isBlank

def escaped? (c : Char) : Option Char :=
  match c with
  | 'b' => some '\x08'
  | 't' => some '\t'
  | 'n' => some '\n'
  | 'f' => some '\x0c'
  | 'r' => some '\r'
  | '"' => some '"'
  | '\\' => some '\\'
  | _ => none

def hexChar (width : Nat) (s : List Char) : Except Fault (List Char × List Char) :=
  match Text.readHex width 0 s with
  | none => .error ⟨.hexValue, s⟩
  | some (n, rest) => if n.isValidChar then .ok ([Char.ofNat n], rest)
    else .error ⟨.notScalar, rest⟩

/-- What the text behind a backslash stands for. In a text of many lines a backslash at the end of a
line drops all space up to the next character. -/
def escape (lines : Bool) (s : List Char) : Except Fault (List Char × List Char) :=
  match s with
  | [] => .error ⟨.backslash, []⟩
  | c :: rest =>
    if lines && c == '\n' then .ok ([], rest.dropWhile isSpace)
    else if lines && isBlank c then
      match skipBlanks rest with
      | [] => .ok ([], [])
      | '\n' :: rest => .ok ([], rest.dropWhile isSpace)
      | rest => .error ⟨.backslash, rest⟩
    else if c == 'u' then hexChar 4 rest
    else if c == 'U' then hexChar 8 rest
    else
      match escaped? c with
      | some c => .ok ([c], rest)
      | none => .error ⟨.backslash, rest⟩

/-- The text up to the closing quote or quotes. Each step consumes a character, so the length of the
text and one is enough fuel. -/
def basicFrom (lines : Bool) : Nat → List Char → Except Fault (List Char × List Char)
  | 0, s => .error ⟨.textOpen, s⟩
  | _ + 1, [] => .error ⟨.textOpen, []⟩
  | n + 1, c :: s =>
    if c == '"' then
      if !lines then .ok ([], s)
      else
        match s with
        | '"' :: '"' :: rest => .ok ([], rest)
        | _ => do
          let (out, rest) ← basicFrom lines n s
          pure (c :: out, rest)
    else if c == '\\' then do
      let (cs, s) ← escape lines s
      let (out, rest) ← basicFrom lines n s
      pure (cs ++ out, rest)
    else if (if lines then isIllegalInLines c else isIllegal c) then .error ⟨.illegal c, c :: s⟩
    else do
      let (out, rest) ← basicFrom lines n s
      pure (c :: out, rest)

def basic (lines : Bool) (s : List Char) : Except Fault (List Char × List Char) :=
  basicFrom lines (s.length + 1) s

def upTo? (mark : List Char) : List Char → Option (List Char × List Char)
  | [] => none
  | c :: s =>
    if mark.isPrefixOf (c :: s) then some ([], c :: s)
    else (upTo? mark s).map fun (out, rest) => (c :: out, rest)

def firstIllegal (illegal : Char → Bool) (text rest : List Char) : Option Fault :=
  match text.dropWhile (fun c => !illegal c) with
  | [] => none
  | c :: bad => some ⟨.invalidChar c, c :: bad ++ rest⟩

/-- The text in front of the first `mark`, which is dropped. A missing mark is noticed first. -/
def plain (mark : String) (illegal : Char → Bool) (s : List Char) :
    Except Fault (List Char × List Char) :=
  match upTo? mark.toList s with
  | none => .error ⟨.expected mark, []⟩
  | some (text, rest) =>
    match firstIllegal illegal text rest with
    | some fault => .error fault
    | none => .ok (text, rest.drop mark.length)

def dropBreak (s : List Char) : List Char :=
  match s with
  | '\n' :: s => s
  | _ => s

def extraQuotes (q : Char) (text rest : List Char) : List Char × List Char :=
  match rest with
  | c :: rest =>
    if c != q then (text, c :: rest)
    else
      match rest with
      | d :: rest => if d != q then (text ++ [q], d :: rest) else (text ++ [q, q], rest)
      | [] => (text ++ [q], [])
  | [] => (text, [])

/-- A quoted text, if one starts here. -/
def quotedText? (s : List Char) : Option (Except Fault (List Char × List Char)) :=
  match s with
  | '"' :: '"' :: '"' :: s =>
    some do
      let (text, rest) ← basic true (dropBreak s)
      pure (extraQuotes '"' text rest)
  | '"' :: s => some (basic false s)
  | '\'' :: '\'' :: '\'' :: s =>
    some do
      let (text, rest) ← plain "'''" isIllegalInLines (dropBreak s)
      pure (extraQuotes '\'' text rest)
  | '\'' :: s => some (plain "'" isIllegal s)
  | _ => none

end TypedTemplate.Toml
