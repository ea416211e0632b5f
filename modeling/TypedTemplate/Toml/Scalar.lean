import TypedTemplate.Text.Escape
import TypedTemplate.Toml.Error
import TypedTemplate.Toml.Value

/-! Numbers, dates and times in a settings document. -/
namespace TypedTemplate.Toml

/-- The digits of a run in which single underscores may stand between digits, and what follows
it. -/
def digitRun (p : Char → Bool) : List Char → List Char × List Char
  | [] => ([], [])
  | '_' :: d :: s =>
    if p d then
      let (ds, r) := digitRun p s
      (d :: ds, r)
    else ([], '_' :: d :: s)
  | c :: s =>
    if p c then
      let (ds, r) := digitRun p s
      (c :: ds, r)
    else ([], c :: s)

def digits? (p : Char → Bool) (s : List Char) : Option (List Char × List Char) :=
  match s with
  | c :: _ => if p c then some (digitRun p s) else none
  | [] => none

def digitsValue (base : Nat) (ds : List Char) : Nat :=
  ds.foldl (fun n d => n * base + ((Text.hexValue? d).getD 0)) 0

/-- A whole number with the mark of its base in front. -/
def basedNumber? (s : List Char) : Option (Nat × List Char) :=
  let read (base : Nat) (p : Char → Bool) (s : List Char) :=
    (digits? p s).map fun (ds, r) => (digitsValue base ds, r)
  match s with
  | '0' :: 'x' :: s => read 16 (fun c => (Text.hexValue? c).isSome) s
  | '0' :: 'b' :: s => read 2 (fun c => c == '0' || c == '1') s
  | '0' :: 'o' :: s => read 8 Text.isOctal s
  | _ => none

def sign (s : List Char) : Bool × List Char :=
  match s with
  | '-' :: s => (true, s)
  | '+' :: s => (false, s)
  | _ => (false, s)

def wholePart? (s : List Char) : Option (List Char × List Char) :=
  match s with
  | '0' :: s => some (['0'], s)
  | _ => digits? Char.isDigit s

def fraction? (s : List Char) : Option (List Char × List Char) :=
  match s with
  | '.' :: s => digits? Char.isDigit s
  | _ => none

def power? (s : List Char) : Option (Int × List Char) :=
  match s with
  | c :: s =>
    if c == 'e' || c == 'E' then
      let (negative, s) := sign s
      (digits? Char.isDigit s).map fun (ds, r) =>
        let n : Int := digitsValue 10 ds
        (if negative then -n else n, r)
    else none
  | [] => none

/-- A decimal number; it is real as soon as it has a fraction or an exponent. -/
def decimal? (s : List Char) : Option (Except Cause Value × List Char) :=
  let (negative, s) := sign s
  (wholePart? s).map fun (ds, s) =>
    let fraction := fraction? s
    let (fs, s) := fraction.getD ([], s)
    let power := power? s
    let (e, s) := power.getD (0, s)
    if fraction.isSome || power.isSome then
      (.ok (.real
        (.signed negative (Decimal.nearest ⟨digitsValue 10 (ds ++ fs), e - (fs.length : Int)⟩))), s)
    else if ds.length > Text.maxDigits then (.error (.digits ds.length), s)
    else
      let n : Int := digitsValue 10 ds
      (.ok (.whole (if negative then -n else n)), s)

def special? (s : List Char) : Option (Value × List Char) :=
  let (negative, s) := sign s
  match s with
  | 'i' :: 'n' :: 'f' :: s => some (.real (.signed negative .infinite), s)
  | 'n' :: 'a' :: 'n' :: s => some (.real .undefined, s)
  | _ => none

def field? (width low high : Nat) (s : List Char) : Option (Nat × List Char) :=
  let ds := s.take width
  if ds.length = width ∧ ds.all Char.isDigit then
    let n := digitsValue 10 ds
    if low ≤ n ∧ n ≤ high then some (n, s.drop width) else none
  else none

def mark? (c : Char) (s : List Char) : Option (List Char) :=
  match s with
  | d :: s => if d = c then some s else none
  | [] => none

def micros (s : List Char) : Nat × List Char :=
  match s with
  | '.' :: s =>
    match s.takeWhile Char.isDigit with
    | [] => (0, '.' :: s)
    | ds => (digitsValue 10 ((ds ++ List.replicate 6 '0').take 6), s.dropWhile Char.isDigit)
  | _ => (0, s)

def clock? (s : List Char) : Option (Clock × List Char) := do
  let (hour, s) ← field? 2 0 23 s
  let s ← mark? ':' s
  let (minute, s) ← field? 2 0 59 s
  let s ← mark? ':' s
  let (second, s) ← field? 2 0 59 s
  let (micros, s) := micros s
  pure (⟨hour, minute, second, micros⟩, s)

def offset? (s : List Char) : Option (Offset × List Char) :=
  match s with
  | 'Z' :: s => some (0, s)
  | 'z' :: s => some (0, s)
  | c :: s =>
    if c = '+' ∨ c = '-' then do
      let (hour, s) ← field? 2 0 23 s
      let s ← mark? ':' s
      let (minute, s) ← field? 2 0 59 s
      let size : Int := hour * 60 + minute
      pure (if c = '-' then -size else size, s)
    else none
  | [] => none

def date? (s : List Char) : Option (Date × List Char) := do
  let (year, s) ← field? 4 0 9999 s
  let s ← mark? '-' s
  let (month, s) ← field? 2 1 12 s
  let s ← mark? '-' s
  let (day, s) ← field? 2 1 31 s
  pure (⟨year, month, day⟩, s)

def clockOfDate? (s : List Char) : Option (Clock × List Char) :=
  match s with
  | c :: s => if c = 'T' ∨ c = 't' ∨ c = ' ' then clock? s else none
  | [] => none

/-- A date with or without a time of day; the date has to exist. -/
def moment? (s : List Char) : Option (Except Cause Value × List Char) :=
  (date? s).map fun (d, s) =>
    let (v, s) :=
      match clockOfDate? s with
      | some (c, s) =>
        match offset? s with
        | some (o, s) => (Value.moment d c (some o), s)
        | none => (Value.moment d c none, s)
      | none => (Value.date d, s)
    (if d.isValid then .ok v else .error .date, s)

/-- A number, date or time. -/
def scalar (s : List Char) : Except Fault (Value × List Char) :=
  let checked (r : Except Cause Value × List Char) : Except Fault (Value × List Char) :=
    match r with
    | (.ok v, rest) => .ok (v, rest)
    | (.error cause, _) => .error ⟨cause, s⟩
  match moment? s with
  | some r => checked r
  | none =>
    match clock? s with
    | some (c, rest) => .ok (.clock c, rest)
    | none =>
      match basedNumber? s with
      | some (n, rest) => .ok (.whole n, rest)
      | none =>
        match decimal? s with
        | some r => checked r
        | none =>
          match special? s with
          | some r => .ok r
          | none => .error ⟨.value, s⟩

end TypedTemplate.Toml
