/-! Patterns of names: a star for any characters, a question mark for one, and sets in brackets. -/
namespace TypedTemplate

inductive NamePattern.Item where
  | any
  | one
  | char (c : Char)
  | set (negated : Bool) (ranges : List (Char × Char))

abbrev NamePattern := List NamePattern.Item

namespace NamePattern

/-- The text of a set up to its closing bracket, which may stand first in it. -/
def setText (s : List Char) : Option (List Char × List Char) :=
  let (mark, s) := match s with
    | '!' :: r => (['!'], r)
    | _ => ([], s)
  let (first, s) := match s with
    | ']' :: r => ([']'], r)
    | _ => ([], s)
  let (text, rest) := s.span (· != ']')
  match rest with
  | _ :: rest => some (mark ++ first ++ text, rest)
  | [] => none

def chunks : Nat → (chunk : List Char) → (skip : Nat) → List Char → List (List Char)
  | 0, chunk, _, s => [chunk ++ s]
  | _ + 1, chunk, _, [] => [chunk]
  | n + 1, chunk, skip, c :: s =>
    if skip == 0 && c == '-' then chunk :: chunks n [] 2 s else chunks n (chunk ++ [c]) (skip - 1) s

def mendLast : List (List Char) → List (List Char)
  | [a, []] => [a ++ ['-']]
  | a :: rest => a :: mendLast rest
  | [] => []

/-- Joins chunks whose range is empty, from the last one on, without the two ends of the range. -/
def dropEmptyRanges : List (List Char) → List (List Char)
  | [] => []
  | a :: rest =>
    match dropEmptyRanges rest with
    | [] => [a]
    | b :: more =>
      match a.getLast?, b with
      | some x, y :: ys => if x > y then (a.dropLast ++ ys) :: more else a :: b :: more
      | _, _ => a :: b :: more

def rangesOf : List (List Char) → List (Char × Char)
  | [] => []
  | [a] => a.map fun c => (c, c)
  | a :: b :: rest =>
    let single := a.map fun c => (c, c)
    match a.getLast?, b.head? with
    | some x, some y => single ++ (x, y) :: rangesOf (b :: rest)
    | _, _ => single ++ ('-', '-') :: rangesOf (b :: rest)

def ofSet (text : List Char) : Item :=
  let skip := if text.head? == some '!' then 2 else 1
  let cs := if text.contains '-' then dropEmptyRanges (mendLast (chunks text.length [] skip text))
    else [text]
  match cs with
  | ('!' :: a) :: rest =>
    if a.isEmpty && rest.isEmpty then .one else .set true (rangesOf (a :: rest))
  | _ => .set false (rangesOf cs)

/-- Each step takes a character. -/
def ofCharsFrom : Nat → List Char → NamePattern
  | 0, _ => []
  | _ + 1, [] => []
  | n + 1, c :: s =>
    match c with
    | '*' => .any :: ofCharsFrom n s
    | '?' => .one :: ofCharsFrom n s
    | '[' =>
      match setText s with
      | some (text, rest) => ofSet text :: ofCharsFrom n rest
      | none => .char '[' :: ofCharsFrom n s
    | _ => .char c :: ofCharsFrom n s

def ofText (s : String) : NamePattern := ofCharsFrom s.length s.toList

def suffixes : List Char → List (List Char)
  | [] => [[]]
  | c :: s => (c :: s) :: suffixes s

def Item.admits : Item → Char → Bool
  | any, _ => true
  | one, _ => true
  | char d, c => c == d
  | set negated ranges, c => (ranges.any fun r => r.1 ≤ c && c ≤ r.2) != negated

def accepts : NamePattern → List Char → Bool
  | [], s => s.isEmpty
  | .any :: ps, s => (suffixes s).any (accepts ps)
  | _ :: _, [] => false
  | p :: ps, c :: s => p.admits c && accepts ps s

end NamePattern

def nameMatches (pattern name : String) : Bool := (NamePattern.ofText pattern).accepts name.toList

def isNamePattern (s : String) : Bool := s.toList.any fun c => c == '*' || c == '?' || c == '['

end TypedTemplate
