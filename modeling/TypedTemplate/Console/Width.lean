import TypedTemplate.Text.Identifier

/-! How many columns of a console a text takes. -/
namespace TypedTemplate.Console

def zeroWidth : List (Nat × Nat) := Text.ofRuns 0 [
  0,32,95,33,13,1,986,2,374,6,22,1,192,1,49,1,384,2,80,1,1040,1,474,1,657,160,1550,1,118,2,567,1,
  1356,5,24,7,49,5,1,10,109,4,1,3,34187,3,12605,80,9983,1,249,3,3841,3,445,1,15,1,371,1,3262,2,1,1,
  48,7,3,5,5357,17,6,15,34890,4,5327,8,3860,1,1116,4,3851,5,789505,1,30,96]

/-- Characters that take two columns. -/
def doubleWidth : List (Nat × Nat) := Text.ofRuns 0 [
  4352,96,4538,2,13,2,190,4,3,1,2,1,521,2,21,2,50,12,43,1,19,1,13,1,8,2,17,2,5,2,8,1,5,1,21,1,7,2,1,
  1,4,1,2,1,7,1,4,2,28,1,35,1,1,1,4,3,1,1,61,3,24,1,14,1,859,2,51,1,4,1,810,26,1,89,12,214,26,58,6,
  15,2,86,4,101,5,43,1,94,1,84,11,48,1,40,8,7024,64,22157,3,55,1177,29,643,11172,8540,512,784,10,22,
  35,1,19,1,4,149,96,127,7,28665,4,28,6136,8,1238,42,9,8935,4,1,7,1,2,1,291,15,1,29,3,2,1,14,4,8,
  396,15624,1,202,1,190,1,2,10,101,3,13,44,4,9,7,2,14,6,154,33,12,9,1,70,1,22,12,43,4,5,12,17,3,1,3,
  3,5,63,1,1,1,187,2,63,13,4,1,24,18,1,26,2,13,1,86,85,48,70,6,1,3,3,2,3,4,4,11,2,7,9,227,12,4,1,
  283,47,1,10,1,185,112,13,3,9,7,46,1,7,8,14,4,9,7,9,1287,65534,2,65534]

def charWidth (c : Char) : Nat :=
  let n := c.toNat
  if 32 ≤ n ∧ n < 127 then 1
  else if Text.inRanges zeroWidth n || Text.inRanges Text.combiningRanges n then 0
  else if Text.inRanges doubleWidth n then 2
  else 1

def width (s : List Char) : Nat := s.foldr (fun c n => charWidth c + n) 0

end TypedTemplate.Console
