import TypedTemplate.Text.Quoted

/-! Text as bytes. Only shortest forms of characters are read, and what cannot be read is told with
its place. -/
namespace TypedTemplate.Text.Utf8

inductive Cause where
  | badStart
  | badContinuation
  | truncated

structure Error where
  first : UInt8
  start : Nat
  stop : Nat
  cause : Cause

def Cause.message : Cause → String
  | badStart => "invalid start byte"
  | badContinuation => "invalid continuation byte"
  | truncated => "unexpected end of data"

def Error.message (e : Error) : String :=
  let place :=
    if e.stop == e.start + 1 then
      "byte 0x" ++ String.ofList (hex 2 e.first.toNat) ++ " in position " ++ toString e.start
    else "bytes in position " ++ toString e.start ++ "-" ++ toString (e.stop - 1)
  "'utf-8' codec can't decode " ++ place ++ ": " ++ e.cause.message

def isContinuation (b : UInt8) : Bool := 0x80 ≤ b && b < 0xc0

def fits (first second : UInt8) : Bool :=
  isContinuation second &&
    (if first == 0xe0 then second ≥ 0xa0
    else if first == 0xed then second < 0xa0
    else if first == 0xf0 then second ≥ 0x90
    else if first == 0xf4 then second < 0x90
    else true)

def width? (b : UInt8) : Option Nat :=
  if b < 0x80 then some 1
  else if b < 0xc2 then none
  else if b < 0xe0 then some 2
  else if b < 0xf0 then some 3
  else if b < 0xf5 then some 4
  else none

/-- How many of the bytes behind the first belong to its character, and whether a wrong one follows
them. -/
def continuations (first : UInt8) :
    (count : Nat) → (second : Bool) → List UInt8 → Nat × Option Cause
  | 0, _, _ => (0, none)
  | _ + 1, _, [] => (0, some .truncated)
  | n + 1, second, b :: bs =>
    if (if second then fits first b else isContinuation b) then
      let (k, cause) := continuations first n false bs
      (k + 1, cause)
    else (0, some .badContinuation)

/-- The bits of a first byte that belong to the character. -/
def lead (width : Nat) (b : UInt8) : Nat :=
  match width with
  | 1 => b.toNat
  | 2 => b.toNat % 0x20
  | 3 => b.toNat % 0x10
  | _ => b.toNat % 0x08

def assemble (start : Nat) (bs : List UInt8) : Char :=
  Char.ofNat (bs.foldl (fun n b => n * 0x40 + b.toNat % 0x40) start)

/-- Each step takes a byte at least. -/
def decodeFrom : Nat → (pos : Nat) → List UInt8 → Except Error (List Char)
  | 0, _, _ => .ok []
  | _ + 1, _, [] => .ok []
  | n + 1, pos, b :: bs =>
    match width? b with
    | none => .error ⟨b, pos, pos + 1, .badStart⟩
    | some w =>
      match continuations b (w - 1) true bs with
      | (k, some cause) => .error ⟨b, pos, pos + 1 + k, cause⟩
      | (k, none) => do
        let rest ← decodeFrom n (pos + w) (bs.drop k)
        .ok (assemble (lead w b) (bs.take k) :: rest)

def decode (bs : List UInt8) : Except Error (List Char) := decodeFrom bs.length 0 bs

def encode (s : String) : List UInt8 := s.toUTF8.toList

end TypedTemplate.Text.Utf8
