import TypedTemplate.Decimal.Shortest

/-! Values of a settings document. Tables keep the order in which their keys were written. -/
namespace TypedTemplate.Toml

inductive Real where
  | signed (negative : Bool) (size : Binary)
  | undefined

/-- A signed number with the fewest digits that read back. -/
def Real.render : Real → String
  | undefined => "nan"
  | signed negative size =>
    let text :=
      match size with
      | .finite m e => Decimal.write true (Decimal.shortest m e)
      | .infinite => "inf"
    if negative then "-" ++ text else text

structure Date where
  year : Nat
  month : Nat
  day : Nat
deriving DecidableEq

/-- A time of day to the millionth of a second. -/
structure Clock where
  hour : Nat
  minute : Nat
  second : Nat
  micros : Nat
deriving DecidableEq

abbrev Offset := Int

inductive Value where
  | text (s : String)
  | whole (n : Int)
  | real (x : Real)
  | truth (b : Bool)
  | date (d : Date)
  | clock (c : Clock)
  | moment (d : Date) (c : Clock) (offset : Option Offset)
  | list (items : List Value)
  | table (entries : List (String × Value))
  /-- No value; never written in a document. -/
  | none
deriving Inhabited

def padded (width n : Nat) : String :=
  let s := Nat.toDigits 10 n
  String.ofList (List.replicate (width - s.length) '0' ++ s)

def Date.render (d : Date) : String :=
  padded 4 d.year ++ "-" ++ padded 2 d.month ++ "-" ++ padded 2 d.day

def Clock.render (c : Clock) : String :=
  let seconds := padded 2 c.hour ++ ":" ++ padded 2 c.minute ++ ":" ++ padded 2 c.second
  if c.micros = 0 then seconds else seconds ++ "." ++ padded 6 c.micros

def renderOffset (offset : Offset) : String :=
  let size := offset.natAbs
  (if offset < 0 then "-" else "+") ++ padded 2 (size / 60) ++ ":" ++ padded 2 (size % 60)

def renderMoment (d : Date) (c : Clock) (offset : Option Offset) : String :=
  d.render ++ "T" ++ c.render ++ (offset.map renderOffset).getD ""

def isLeap (year : Nat) : Bool := year % 4 == 0 && (year % 100 != 0 || year % 400 == 0)

def daysIn (year month : Nat) : Nat :=
  if month = 2 then if isLeap year then 29 else 28
  else if month = 4 ∨ month = 6 ∨ month = 9 ∨ month = 11 then 30
  else 31

/-- Years start at 1. -/
def Date.isValid (d : Date) : Bool :=
  1 ≤ d.year && 1 ≤ d.month && d.month ≤ 12 && 1 ≤ d.day && d.day ≤ daysIn d.year d.month

end TypedTemplate.Toml
