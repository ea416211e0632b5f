import TypedTemplate.ClassSource.Fault
import TypedTemplate.Decimal.Shortest

/-! Number literals in class sources. Two literals of one value are written the same way. -/
namespace TypedTemplate.ClassSource

inductive Number where
  | whole (n : Nat)
  | real (x : Binary)
  | imaginary (x : Binary)

namespace Number

def renderBinary (pointed : Bool) : Binary → String
  | .finite m e => Decimal.write pointed (Decimal.shortest m e)
  | .infinite => "1e309"

def render : Number → Option String
  | whole n =>
    let s := Nat.toDigits 10 n
    if s.length > Text.maxDigits then none else some (String.ofList s)
  | real x => some (renderBinary true x)
  | imaginary x => some (renderBinary false x ++ "j")

inductive RunState where
  | start
  | digits
  | gap
  deriving DecidableEq

/-- Digits with single underscores between them, or before the first. -/
def digitRun (radix : Radix) (p : Char → Bool) :
    RunState → List Char → Except Fault (List Char × List Char)
  | state, [] => if state = .digits then .ok ([], []) else .error (.number radix)
  | state, c :: s =>
    if p c then do
      let (ds, rest) ← digitRun radix p .digits s
      .ok (c :: ds, rest)
    else if c == '_' && state != .gap then digitRun radix p .gap s
    else if state = .digits then .ok ([], c :: s)
    else if c.isDigit then .error (.digit c radix)
    else .error (.number radix)

def decimalRun : List Char → Except Fault (List Char × List Char) :=
  digitRun .decimal Char.isDigit .start

def valueIn (base : Nat) (digits : List Char) : Nat :=
  digits.foldl (fun n c => n * base + (Text.hexValue? c).getD 0) 0

def isWordByte (c : Char) : Bool := c.isAlphanum || c == '_' || c.toNat ≥ 128

def followers : List String := ["and", "else", "for", "or", "not"]

def looseFollowers : List String := ["if", "in", "is"]

def endsWell (s : List Char) : Bool :=
  match s with
  | [] => true
  | c :: _ =>
    !(c.isAlphanum || c == '_') || looseFollowers.any (fun w => w.toList.isPrefixOf s) ||
      followers.contains (String.ofList (s.takeWhile isWordByte))

def finish (radix : Radix) (n : Number) (rest : List Char) : Except Fault (Number × List Char) :=
  if endsWell rest then .ok (n, rest) else .error (.number radix)

def based (radix : Radix) (base : Nat) (p : Char → Bool) (s : List Char) :
    Except Fault (Number × List Char) := do
  let (ds, rest) ← digitRun radix p .start s
  match rest.head? with
  | some c =>
    if c.isDigit then .error (.digit c radix) else finish radix (.whole (valueIn base ds)) rest
  | none => finish radix (.whole (valueIn base ds)) rest

/-- An exponent, if there is one; a letter `e` may also begin the next word. -/
def exponent (s : List Char) : Except Fault (Option Int × List Char) :=
  match s with
  | c :: r =>
    if c == 'e' || c == 'E' then
      let signed (neg : Bool) (r : List Char) : Except Fault (Option Int × List Char) := do
        let (ds, rest) ← decimalRun r
        let n : Int := valueIn 10 ds
        .ok (some (if neg then -n else n), rest)
      match r with
      | '+' :: d :: _ => if d.isDigit then signed false (r.drop 1) else .error (.number .decimal)
      | '-' :: d :: _ => if d.isDigit then signed true (r.drop 1) else .error (.number .decimal)
      | '+' :: _ => .error (.number .decimal)
      | '-' :: _ => .error (.number .decimal)
      | d :: _ => if d.isDigit then signed false r else .ok (none, s)
      | [] => .ok (none, s)
    else .ok (none, s)
  | [] => .ok (none, s)

/-- The part of a number from its point on, after the digits before it. -/
def fromPoint (front : List Char) (s : List Char) : Except Fault (Number × List Char) := do
  let (back, rest) ←
    match s with
    | '.' :: r => if r.head?.any Char.isDigit then decimalRun r else .ok ([], r)
    | _ => .ok ([], s)
  let hasPoint := s.head? == some '.'
  let (e, rest) ← exponent rest
  let d : Decimal := ⟨valueIn 10 (front ++ back), e.getD 0 - back.length⟩
  match rest with
  | c :: r =>
    if c == 'j' || c == 'J' then finish .imaginary (.imaginary d.nearest) r
    else if hasPoint || e.isSome then finish .decimal (.real d.nearest) rest
    else whole rest
  | [] => if hasPoint || e.isSome then .ok (.real d.nearest, []) else whole []
where
  /-- A number that is not zero has no zero in front, unless the letter behind it could have been an
  exponent's. -/
  whole (rest : List Char) : Except Fault (Number × List Char) :=
    if front.all (· == '0') then finish .decimal (.whole 0) rest
    else if front.head? == some '0' then
      if rest.head?.any fun c => c == 'e' || c == 'E' then
        finish .decimal (.real (Decimal.nearest ⟨valueIn 10 front, 0⟩)) rest
      else .error .leadingZero
    else if front.length > Text.maxDigits then .error (.tooManyDigits front.length)
    else finish .decimal (.whole (valueIn 10 front)) rest

/-- The number at the front of a text that begins with a digit, or with a point and a digit. -/
def read (s : List Char) : Except Fault (Number × List Char) :=
  match s with
  | '0' :: c :: r =>
    if c == 'x' || c == 'X' then based .hexadecimal 16 (fun c => (Text.hexValue? c).isSome) r
    else if c == 'o' || c == 'O' then based .octal 8 Text.isOctal r
    else if c == 'b' || c == 'B' then based .binary 2 (fun c => c == '0' || c == '1') r
    else decimal
  | _ => decimal
where
  decimal : Except Fault (Number × List Char) := do
    let (front, rest) ← if s.head? == some '.' then .ok ([], s) else decimalRun s
    fromPoint front rest

end Number

end TypedTemplate.ClassSource
