import TypedTemplate.Decimal.Basic

/-! The fewest decimal digits that read back as a given binary number. -/
namespace TypedTemplate.Decimal

structure Fraction where
  num : Nat
  den : Nat

def Fraction.ofBinary (m : Nat) (e : Int) : Fraction :=
  if 0 ≤ e then ⟨m * Nat.pow 2 e.toNat, 1⟩ else ⟨m, Nat.pow 2 (-e).toNat⟩

def Fraction.ofDecimal (m : Nat) (e : Int) : Fraction :=
  if 0 ≤ e then ⟨m * Nat.pow 10 e.toNat, 1⟩ else ⟨m, Nat.pow 10 (-e).toNat⟩

def Fraction.lt (a b : Fraction) : Bool := a.num * b.den < b.num * a.den

def Fraction.le (a b : Fraction) : Bool := a.num * b.den ≤ b.num * a.den

def leadingPlace (x : Fraction) : Int :=
  let guess : Int := (digitCount x.num : Int) - (digitCount x.den : Int)
  if Fraction.le (.ofDecimal 1 guess) x then guess else guess - 1

def interval (m : Nat) (e : Int) : Fraction × Fraction × Bool :=
  let below := if m == Nat.pow 2 52 && e > -1074 then 4 * m - 1 else 4 * m - 2
  (.ofBinary below (e - 2), .ofBinary (4 * m + 2) (e - 2), m % 2 == 0)

def within (x : Fraction) (ends : Fraction × Fraction × Bool) : Bool :=
  let (lo, hi, closed) := ends
  if closed then lo.le x && x.le hi else lo.lt x && x.lt hi

/-- The nearer of the two neighbours on the grid of `10 ^ place` that lies between the ends. -/
def onGrid? (x : Fraction) (ends : Fraction × Fraction × Bool) (place : Int) : Option Nat :=
  let unit := Fraction.ofDecimal 1 place
  let low := x.num * unit.den / (x.den * unit.num)
  let okLow := low != 0 && within (.ofDecimal low place) ends
  let okHigh := within (.ofDecimal (low + 1) place) ends
  let rest := x.num * unit.den % (x.den * unit.num) * 2
  let half := x.den * unit.num
  match okLow, okHigh with
  | true, true => some (if rest < half || (rest == half && low % 2 == 0) then low else low + 1)
  | true, false => some low
  | false, true => some (low + 1)
  | false, false => none

def digitsFrom (x : Fraction) (ends : Fraction × Fraction × Bool) (lead : Int) : Nat → Nat → Decimal
  | 0, count => ⟨(onGrid? x ends (lead - count + 1)).getD 0, lead - count + 1⟩
  | n + 1, count =>
    match onGrid? x ends (lead - count + 1) with
    | some d => ⟨d, lead - count + 1⟩
    | none => digitsFrom x ends lead n (count + 1)

def strip : Nat → Decimal → Decimal
  | 0, d => d
  | n + 1, d =>
    if d.mantissa != 0 && d.mantissa % 10 == 0 then strip n ⟨d.mantissa / 10, d.exponent + 1⟩ else d

def shortest (m : Nat) (e : Int) : Decimal :=
  if m == 0 then ⟨0, 0⟩
  else
    let x := Fraction.ofBinary m e
    strip 20 (digitsFrom x (interval m e) (leadingPlace x) 17 1)

/-- How a number is written: positionally for first digits from `10 ^ -4` up to `10 ^ 15`, with a
point and a digit after it where `pointed`, otherwise with an exponent of at least two digits. -/
def write (pointed : Bool) (d : Decimal) : String :=
  let digits := Nat.toDigits 10 d.mantissa
  let place : Int := d.exponent + digits.length
  let zeros (n : Int) : List Char := List.replicate n.toNat '0'
  let text :=
    if d.mantissa == 0 then '0' :: if pointed then ['.', '0'] else []
    else if -4 < place && place ≤ 16 then
      if place ≤ 0 then ['0', '.'] ++ zeros (-place) ++ digits
      else if 0 ≤ d.exponent then digits ++ zeros d.exponent ++ if pointed then ['.', '0'] else []
      else digits.take place.toNat ++ ['.'] ++ digits.drop place.toNat
    else
      let power := place - 1
      let size := Nat.toDigits 10 power.natAbs
      let mantissa := digits.take 1 ++ if digits.length == 1 then [] else '.' :: digits.drop 1
      mantissa ++ ['e', if power < 0 then '-' else '+'] ++
        (if size.length == 1 then '0' :: size else size)
  String.ofList text

end TypedTemplate.Decimal
