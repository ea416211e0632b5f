import TypedTemplate.ClassSource.Token
import TypedTemplate.Text.CharName

/-! Values of text and byte literals, and where an escape in them cannot be read. -/
namespace TypedTemplate.ClassSource

def byteEscape (s : List Char) : Option (List Nat × List Char) :=
  match s with
  | [] => some (['\\'.toNat], [])
  | 'x' :: r => (Text.readHex 2 0 r).map fun (n, r) => ([n], r)
  | c :: r =>
    if Text.isOctal c then
      let (n, r) := Text.readOctal 3 0 s
      some ([n % 256], r)
    else
      match Text.simpleEscape? c with
      | some out => some (out.map Char.toNat, r)
      | none => some (['\\'.toNat, c.toNat], r)

/-- Bytes of a literal of some length with its escapes replaced. Each step takes a character. -/
def unescapeBytes (length : Nat) : Nat → List Char → Except Fault (List Nat)
  | 0, _ => .ok []
  | _ + 1, [] => .ok []
  | n + 1, c :: s => do
    let (front, rest) ←
      if c == '\\' then
        match byteEscape s with
        | some found => .ok found
        | none => .error (.byteEscape (length - s.length - 1))
      else .ok ([c.toNat], s)
    .ok (front ++ (← unescapeBytes length n rest))

def Piece.byteValue (p : Piece) : Except Fault (List Nat) :=
  if p.body.any (·.toNat ≥ 128) then .error .wideByte
  else if p.raw then .ok (p.body.map Char.toNat)
  else unescapeBytes p.body.length (p.body.length + 1) p.body

def codedWidth (s : List Char) : Nat := s.foldl (fun n c => n + if c.toNat < 128 then 1 else 10) 0

def escapeReach (s : List Char) : Nat :=
  match s with
  | 'N' :: '\x7b' :: r =>
    let name := r.takeWhile (· != '\x7d')
    let closed := name.length < r.length && !name.isEmpty
    2 + codedWidth name + if closed then 1 else 0
  | 'N' :: _ => 1
  | c :: r =>
    let width := (Text.codeForm? c).elim 0 Text.CodeForm.width
    1 + ((r.take width).takeWhile fun c => (Text.hexValue? c).isSome).length
  | [] => 1

/-- The first escape that cannot be read, by its first and last position. A backslash that escapes
nothing is coded when a character outside ASCII follows it or the literal ends. Each step takes a
character. -/
def failedEscape : Nat → (position : Nat) → List Char → Nat × Nat
  | 0, p, _ => (p, p)
  | _ + 1, p, [] => (p, p)
  | n + 1, p, c :: s =>
    if c == '\\' then
      match Text.readEscape Text.charNamed? s with
      | .ok (_, rest) =>
        let coded := if s.head?.all (·.toNat ≥ 128) then 5 else 0
        failedEscape n (p + 1 + coded + codedWidth (s.take (s.length - rest.length))) rest
      | .error _ => (p, p + escapeReach s)
    else failedEscape n (p + codedWidth [c]) s

def plainValue (raw : Bool) (s : List Char) : Except Fault (List Nat) :=
  if raw then .ok (Text.codes s)
  else
    match Text.unescape Text.charNamed? s with
    | .ok value => .ok value
    | .error cause =>
      let (first, last) := failedEscape (s.length + 1) 0 s
      .error (.escape first last cause)

end TypedTemplate.ClassSource
