/-! Decimal numbers and the binary numbers of 53 bits nearest to them. -/
namespace TypedTemplate

structure Decimal where
  mantissa : Nat
  exponent : Int

inductive Binary where
  | finite (mantissa : Nat) (exponent : Int)
  | infinite

namespace Decimal

def digitCount (n : Nat) : Nat := (Nat.toDigits 10 n).length

def roundDiv (num den : Nat) : Nat :=
  let q := num / den
  let r := num % den
  if 2 * r > den || (2 * r == den && q % 2 == 1) then q + 1 else q

def scaled (num den : Nat) (e : Int) : Nat × Nat :=
  if 0 ≤ e then (num, den * Nat.pow 2 e.toNat) else (num * Nat.pow 2 (-e).toNat, den)

/-- The nearest number of 53 bits to a positive fraction. -/
def nearestFraction (num den : Nat) : Binary :=
  let guess : Int := max ((num.log2 : Int) - (den.log2 : Int) - 53) (-1074)
  let (n, d) := scaled num den guess
  let e := if n / d < Nat.pow 2 53 then guess else guess + 1
  let (n, d) := scaled num den e
  let m := roundDiv n d
  let (m, e) := if m == Nat.pow 2 53 then (Nat.pow 2 52, e + 1) else (m, e)
  if e > 971 then .infinite else .finite m e

/-- The nearest binary number. Numbers far outside the range are not computed. -/
def nearest (d : Decimal) : Binary :=
  if d.mantissa == 0 then .finite 0 0
  else
    let size := (digitCount d.mantissa : Int) + d.exponent
    if size > 400 then .infinite
    else if size < -400 then .finite 0 0
    else if 0 ≤ d.exponent then nearestFraction (d.mantissa * Nat.pow 10 d.exponent.toNat) 1
    else nearestFraction d.mantissa (Nat.pow 10 (-d.exponent).toNat)

end Decimal

end TypedTemplate
