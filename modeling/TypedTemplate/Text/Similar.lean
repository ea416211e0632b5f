import TypedTemplate.Text.Search

/-! How alike two texts are. The longest run that both have in common is matched first, then what
stands before it and what stands behind it. -/
namespace TypedTemplate.Text

def commonFront : List Char → List Char → Nat
  | c :: s, d :: t => if c = d then commonFront s t + 1 else 0
  | _, _ => 0

/-- A run of characters that stands in two texts. -/
structure Run where
  left : Nat
  right : Nat
  size : Nat

def longer (a b : Run) : Run := if a.size < b.size then b else a

def longestRun (s t : List Char) : Run :=
  let runs := (List.range s.length).flatMap fun i =>
    (List.range t.length).map fun j => Run.mk i j (commonFront (s.drop i) (t.drop j))
  runs.foldl longer ⟨0, 0, 0⟩

/-- The number of characters that are matched. Each run is a character long at least, so the length
of a text is enough fuel. -/
def matchedFrom : Nat → List Char → List Char → Nat
  | 0, _, _ => 0
  | n + 1, s, t =>
    let r := longestRun s t
    if r.size = 0 then 0
    else
      matchedFrom n (s.take r.left) (t.take r.right) + r.size +
        matchedFrom n (s.drop (r.left + r.size)) (t.drop (r.right + r.size))

def matched (s t : List Char) : Nat := matchedFrom s.length s t

def isLike (s t : List Char) : Bool := 10 * matched s t ≥ 3 * (s.length + t.length)

def noLess (word a b : String) : Bool :=
  let score (x : String) : Nat × Nat := (matched x.toList word.toList, x.length + word.length)
  let (m, k) := score a
  let (m', k') := score b
  m' * k < m * k' || (m' * k == m * k' && !decide (a < b))

def closeTo (word : String) (texts : List String) : List String :=
  let near := texts.filter fun x => isLike x.toList word.toList
  ((near.mergeSort (noLess word)).take 3).mergeSort fun a b => !decide (b < a)

end TypedTemplate.Text
