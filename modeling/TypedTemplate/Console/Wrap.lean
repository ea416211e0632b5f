import TypedTemplate.Console.Width
import TypedTemplate.Text.Search

/-! Breaking text into lines that fit a console. -/
namespace TypedTemplate.Console

def tabSize : Nat := 8

/-- Tabs reach to the next multiple of eight columns. -/
def expandTabsFrom : (column : Nat) → List Char → List Char
  | _, [] => []
  | column, c :: s =>
    if c == '\t' then
      let size := tabSize - column % tabSize
      List.replicate size ' ' ++ expandTabsFrom (column + size) s
    else c :: expandTabsFrom (column + charWidth c) s

/-- A word with the blanks behind it, and what follows. The blanks in front of the first word belong
to it. -/
def takeWord (s : List Char) : List Char × List Char :=
  let front := s.takeWhile Text.isBlank
  let s := s.drop front.length
  let core := s.takeWhile fun c => !Text.isBlank c
  let s := s.drop core.length
  let back := s.takeWhile Text.isBlank
  (front ++ core ++ back, s.drop back.length)

def wordsFrom : Nat → List Char → List (List Char)
  | 0, _ => []
  | n + 1, s =>
    if s.all Text.isBlank then []
    else
      let (w, rest) := takeWord s
      w :: wordsFrom n rest

def words (s : List Char) : List (List Char) := wordsFrom s.length s

def chop (limit : Nat) : (part : List Char) → (used : Nat) → List Char → List (List Char)
  | part, _, [] => [part.reverse]
  | part, used, c :: s =>
    let size := charWidth c
    if used + size > limit then part.reverse :: chop limit [c] size s
    else chop limit (c :: part) (used + size) s

/-- Lines so far, the last one first, and the columns taken on the last one. -/
structure Filling where
  lines : List (List Char)
  used : Nat

namespace Filling

def start : Filling := ⟨[], 0⟩

def breakLine (f : Filling) (part : List Char) : Filling :=
  ⟨part :: if f.lines.all List.isEmpty then [] else f.lines, width part⟩

def extend (f : Filling) (word : List Char) : Filling :=
  match f.lines with
  | l :: ls => ⟨(l ++ word) :: ls, f.used + width word⟩
  | [] => ⟨[word], width word⟩

def add (limit : Nat) (f : Filling) (word : List Char) : Filling :=
  let size := width (Text.trimEnd word)
  if f.used + size ≤ limit then f.extend word
  else if size > limit then (chop limit [] 0 word).foldl breakLine f
  else f.breakLine word

def addWhole (limit : Nat) (f : Filling) (word : List Char) : Filling :=
  if f.used + width (Text.trimEnd word) ≤ limit then f.extend word else f.breakLine word

end Filling

def dropExcess (limit : Nat) (line : List Char) : List Char :=
  let blanks := (line.reverse.takeWhile Text.isBlank).length
  line.take (line.length - min blanks (line.length - limit))

/-- The front of a line that takes up a number of columns, looked for by halving between two
positions. Half a character is a space. Characters that take no column may leave a choice, and then
the front that is met first is taken. -/
def cropBetween (limit : Nat) (line : List Char) : Nat → (start stop : Nat) → List Char
  | 0, _, _ => line
  | n + 1, start, stop =>
    let middle := (start + stop) / 2
    let front := line.take (middle + 1)
    let size := width front
    if size == limit + 1 && front.getLast?.any (charWidth · == 2) then front.dropLast ++ [' ']
    else if size == limit then front
    else if size > limit then cropBetween limit line n start middle
    else cropBetween limit line n middle stop

def crop (limit : Nat) (line : List Char) : List Char :=
  if limit = 0 then []
  else if width line > limit then cropBetween limit line (line.length + 1) 0 line.length
  else line

def expandTabs (line : List Char) : List Char :=
  if line.contains '\t' then expandTabsFrom 0 line else line

def wrapLine (limit : Nat) (line : List Char) : List (List Char) :=
  let line := expandTabs line
  if line.length ≤ limit && width line ≤ limit then [line]
  else
    let lines :=
      match words line with
      | [] => [line]
      | ws => (ws.foldl (Filling.add limit) .start).lines.reverse
    lines.map fun l => crop limit (dropExcess limit l)

def wrap (limit : Nat) (s : List Char) : List (List Char) :=
  (Text.pieces ['\n'] s).flatMap (wrapLine limit)

end TypedTemplate.Console
