import TypedTemplate.Text.Identifier

/-! Word characters: letters, digits of every script, other numerals, and the underscore. -/
namespace TypedTemplate.Text

def unworded : List Nat := [0x1885, 0x1886, 0x2118, 0x212e]

/-- Numerals outside ASCII that are no digits and begin no identifier. -/
def numeralRanges : List (Nat × Nat) := ofRuns 0 [
  178,2,5,1,2,3,699,1,1657,6,376,6,120,3,133,7,217,7,17,9,186,1,127,1,118,10,1077,20,1139,10,480,1,
  1685,1,3,6,6,10,198,16,41,1,726,60,78,22,630,30,1385,1,305,1,866,4,138,10,30,8,1,15,32,10,39,15,
  30064,6,21544,6,406,2,116,1,1,1,1,1,1,1,1,1,1,1,1,1,1,1,287,2,359,45,65,4,17,2,341,27,36,4,1332,8,
  25,7,39,9,75,5,22,6,160,2,2,16,2,46,64,9,52,2,30,3,75,5,104,8,24,8,41,7,330,6,352,31,158,10,42,4,
  112,7,134,20,379,20,1349,2,430,9,871,19,851,21,19334,7,798,23,25673,20,108,25,5454,9,929,59,1,3,1,
  4,76,45,1,15,962,13]

def isWord (c : Char) : Bool :=
  let n := c.toNat
  if n < 128 then c.isAlphanum || c == '_'
  else (inRanges identifierStartRanges n && !unworded.contains n) || inRanges digitRanges n ||
    inRanges numeralRanges n

end TypedTemplate.Text
