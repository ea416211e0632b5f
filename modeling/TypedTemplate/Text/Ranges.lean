/-! Sets of characters given as ascending ranges of code points. -/
namespace TypedTemplate.Text

def ofRuns : (at_ : Nat) → List Nat → List (Nat × Nat)
  | at_, gap :: length :: runs =>
    (at_ + gap, at_ + gap + length - 1) :: ofRuns (at_ + gap + length) runs
  | _, _ => []

def inRanges : List (Nat × Nat) → Nat → Bool
  | [], _ => false
  | (lo, hi) :: rest, n => if n < lo then false else n ≤ hi || inRanges rest n

end TypedTemplate.Text
