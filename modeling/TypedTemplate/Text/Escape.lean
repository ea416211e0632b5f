import TypedTemplate.Text.Quoted

/-! Backslash escapes of string literals. What they stand for is given by code points, because an
escape may also name half of a surrogate pair. -/
namespace TypedTemplate.Text

/-- The three escapes that give a character by its code. -/
inductive CodeForm where
  | byte
  | short
  | long

def CodeForm.width : CodeForm → Nat
  | byte => 2
  | short => 4
  | long => 8

inductive EscapeError where
  | truncated (form : CodeForm)
  | illegalCode
  | malformedName
  | unknownName

def EscapeError.message : EscapeError → String
  | truncated .byte => "truncated \\xXX escape"
  | truncated .short => "truncated \\uXXXX escape"
  | truncated .long => "truncated \\UXXXXXXXX escape"
  | illegalCode => "illegal Unicode character"
  | malformedName => "malformed \\N character escape"
  | unknownName => "unknown Unicode character name"

def hexValue? (c : Char) : Option Nat :=
  if '0' ≤ c ∧ c ≤ '9' then some (c.toNat - '0'.toNat)
  else if 'a' ≤ c ∧ c ≤ 'f' then some (c.toNat - 'a'.toNat + 10)
  else if 'A' ≤ c ∧ c ≤ 'F' then some (c.toNat - 'A'.toNat + 10)
  else none

/-- The number that exactly `width` hexadecimal digits give, and what follows them. -/
def readHex : (width value : Nat) → List Char → Option (Nat × List Char)
  | 0, value, s => some (value, s)
  | _ + 1, _, [] => none
  | w + 1, value, c :: s =>
    match hexValue? c with
    | some d => readHex w (value * 16 + d) s
    | none => none

def isOctal (c : Char) : Bool := '0' ≤ c && c ≤ '7'

def readOctal : (width value : Nat) → List Char → Nat × List Char
  | w + 1, value, c :: s =>
    if isOctal c then readOctal w (value * 8 + (c.toNat - '0'.toNat)) s else (value, c :: s)
  | _, value, s => (value, s)

def simpleEscape? (c : Char) : Option (List Char) :=
  match c with
  | '\n' => some []
  | '\\' => some ['\\']
  | '\'' => some ['\'']
  | '"' => some ['"']
  | 'a' => some ['\x07']
  | 'b' => some ['\x08']
  | 'f' => some ['\x0c']
  | 'n' => some ['\n']
  | 'r' => some ['\r']
  | 't' => some ['\t']
  | 'v' => some ['\x0b']
  | _ => none

def codeForm? (c : Char) : Option CodeForm :=
  match c with
  | 'x' => some .byte
  | 'u' => some .short
  | 'U' => some .long
  | _ => none

def codes (s : List Char) : List Nat := s.map Char.toNat

/-- The code points that the text behind a backslash stands for, and what follows it. The parameter
gives the code point of a name. -/
def readEscape (named? : List Char → Option Nat) :
    List Char → Except EscapeError (List Nat × List Char)
  | [] => .ok (codes ['\\'], [])
  | c :: s =>
    match simpleEscape? c with
    | some out => .ok (codes out, s)
    | none =>
      if isOctal c then
        let (n, s) := readOctal 3 0 (c :: s)
        .ok ([n], s)
      else
        match codeForm? c with
        | some form =>
          match readHex form.width 0 s with
          | some (n, s) => if n < 0x110000 then .ok ([n], s) else .error .illegalCode
          | none => .error (.truncated form)
        | none =>
          if c = 'N' then
            match s with
            | '{' :: s =>
              let (name, rest) := s.span (· != '}')
              match rest with
              | [] => .error .malformedName
              | _ :: rest =>
                if name.isEmpty then .error .malformedName
                else
                  match named? name with
                  | some n => .ok ([n], rest)
                  | none => .error .unknownName
            | _ => .error .malformedName
          else .ok (codes ['\\', c], s)

/-- The text with its escapes replaced. Each step consumes a character, so the length of the text is
enough fuel. -/
def unescapeFrom (named? : List Char → Option Nat) : Nat → List Char → Except EscapeError (List Nat)
  | 0, _ => .ok []
  | _ + 1, [] => .ok []
  | n + 1, c :: s =>
    if c = '\\' then do
      let (out, s) ← readEscape named? s
      let rest ← unescapeFrom named? n s
      pure (out ++ rest)
    else do
      let rest ← unescapeFrom named? n s
      pure (c.toNat :: rest)

def unescape (named? : List Char → Option Nat) (s : List Char) : Except EscapeError (List Nat) :=
  unescapeFrom named? (s.length + 1) s

def asciiCoded (s : List Char) : List Char :=
  s.flatMap fun c => if c.toNat < 128 then [c] else charCode c

end TypedTemplate.Text
