import TypedTemplate.Text.Printable

/-! Quoted texts as they stand in messages. Single quotes are used, unless the text holds a single
quote and no double quote; characters that cannot be shown are written by their code. -/
namespace TypedTemplate.Text

def hexDigit (n : Nat) : Char := (Nat.digitChar n)

def hex (width n : Nat) : List Char :=
  match width with
  | 0 => []
  | w + 1 => hex w (n / 16) ++ [hexDigit (n % 16)]

def charCode (c : Char) : List Char :=
  let n := c.toNat
  if n < 0x100 then '\\' :: 'x' :: hex 2 n
  else if n < 0x10000 then '\\' :: 'u' :: hex 4 n
  else '\\' :: 'U' :: hex 8 n

def quoteChar (q c : Char) : List Char :=
  if c = q ∨ c = '\\' then ['\\', c]
  else if c = '\n' then ['\\', 'n']
  else if c = '\r' then ['\\', 'r']
  else if c = '\t' then ['\\', 't']
  else if isPrintable c then [c]
  else charCode c

def quoteMark (s : List Char) : Char := if s.contains '\'' && !s.contains '"' then '"' else '\''

def quoteCode (q : Char) (n : Nat) : List Char :=
  if n.isValidChar then quoteChar q (Char.ofNat n) else '\\' :: 'u' :: hex 4 n

def quotedChars (s : List Char) : List Char :=
  let q := quoteMark s
  q :: s.flatMap (quoteChar q) ++ [q]

def charOfCode (n : Nat) : Char := if n.isValidChar then Char.ofNat n else Char.ofNat 0xfffd

def quoteMarkOfCodes (s : List Nat) : Char := quoteMark (s.map charOfCode)

def quotedCodes (s : List Nat) : List Char :=
  let q := quoteMarkOfCodes s
  q :: s.flatMap (quoteCode q) ++ [q]

def quoted (s : String) : String := String.ofList (quotedChars s.toList)

end TypedTemplate.Text
