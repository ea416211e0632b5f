import TypedTemplate.ClassSource.Expr
import TypedTemplate.Text.Quoted
import TypedTemplate.Text.Search

/-! How text and byte literals are written. -/
namespace TypedTemplate.ClassSource

/-- Quotes around a literal. -/
structure Quote where
  mark : Char
  triple : Bool
  deriving DecidableEq

namespace Quote

def text (q : Quote) : List Char := if q.triple then [q.mark, q.mark, q.mark] else [q.mark]

def all : List Quote := [⟨'\'', false⟩, ⟨'"', false⟩, ⟨'"', true⟩, ⟨'\'', true⟩]

end Quote

/-- A backslash, or a code point that cannot be shown, by its escape. Newlines and tabs may be
kept. -/
def escapeCode (keepBlank : Bool) (n : Nat) : List Char :=
  let c := Text.charOfCode n
  if keepBlank && (c == '\n' || c == '\t') then [c]
  else if c == '\\' then ['\\', '\\']
  else if n.isValidChar && Text.isPrintable c then [c]
  else Text.quoteCode '\'' n

/-- A literal with as few escapes as possible, and the quotes that may go around it, best first.
Where none of the given quotes fit, quotes are escaped instead. -/
def sparing (quotes : List Quote) (keepBlank : Bool) (s : List Nat) : List Char × List Quote :=
  let t := s.flatMap (escapeCode keepBlank)
  let fits := quotes.filter fun q => (q.triple || !t.contains '\n') && !Text.occurs q.text t
  match fits with
  | [] =>
    let mark := Text.quoteMarkOfCodes s
    (s.flatMap (Text.quoteCode mark), [(quotes.find? (·.mark == mark)).getD ⟨mark, false⟩])
  | _ =>
    match t.getLast? with
    | none => (t, fits)
    | some last =>
      let fits := fits.filter (·.mark != last) ++ fits.filter (·.mark == last)
      if fits.head?.any (·.mark == last) then (t.dropLast ++ ['\\', last], fits) else (t, fits)

def writeSparing (s : List Nat) : List Char :=
  let (t, quotes) := sparing Quote.all true s
  let q := quotes.head?.elim [] Quote.text
  q ++ t ++ q

def agree (quotes : List Quote) : List (List Nat × Bool) → Option (List Char × List Quote)
  | [] => some ([], quotes)
  | (s, plain) :: rest =>
    let (t, next) := sparing quotes (!plain) s
    if next.any quotes.contains then (agree next rest).map fun (u, qs) => (t ++ u, qs) else none

def writeJoined (parts : List (List Nat × Bool)) : List Char :=
  match agree Quote.all parts with
  | some (t, quotes) =>
    let q := quotes.head?.elim [] Quote.text
    q ++ t ++ q
  | none =>
    let q := ['\'', '\'', '\'']
    q ++ parts.flatMap (fun p => p.1.flatMap (Text.quoteCode '\'')) ++ q

def byteChar (mark : Char) (n : Nat) : List Char :=
  let c := Char.ofNat n
  if n < 127 then Text.quoteChar mark c else '\\' :: 'x' :: Text.hex 2 n

def writeBytes (s : List Nat) : List Char :=
  let mark := Text.quoteMark (s.map Char.ofNat)
  'b' :: mark :: s.flatMap (byteChar mark) ++ [mark]

end TypedTemplate.ClassSource
