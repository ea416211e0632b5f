import TypedTemplate.Text.CharName.Alphabets
import TypedTemplate.Text.CharName.EastAsian
import TypedTemplate.Text.CharName.Historic
import TypedTemplate.Text.CharName.Listing
import TypedTemplate.Text.CharName.Notations
import TypedTemplate.Text.CharName.Pictures
import TypedTemplate.Text.CharName.Signs
import TypedTemplate.Text.CharName.Syllables
import TypedTemplate.Text.Normal.Basic
import TypedTemplate.Text.Ranges

/-! Characters by their names. Most names are listed; those of syllables and ideographs follow from
the code point. -/
namespace TypedTemplate.Text.CharName

def leads : List String :=
  ["G", "GG", "N", "D", "DD", "R", "M", "B", "BB", "S", "SS", "", "J", "JJ", "C", "K", "T", "P",
    "H"]

def vowels : List String :=
  ["A", "AE", "YA", "YAE", "EO", "E", "YEO", "YE", "O", "WA", "WAE", "OE", "YO", "U", "WEO", "WE",
    "WI", "YU", "EU", "YI", "I"]

def trails : List String :=
  ["", "G", "GG", "GS", "N", "NJ", "NH", "D", "L", "LG", "LM", "LB", "LS", "LT", "LP", "LH", "M",
    "B", "BS", "S", "SS", "NG", "J", "C", "K", "T", "P", "H"]

/-- The longest sound that begins a text, by its number, and what follows it. -/
def sound? (sounds : List String) (s : List Char) : Option (Nat × List Char) :=
  let fit := sounds.zipIdx.filter fun p => startsWith s p.1.toList
  (fit.foldl longer none).map fun (sound, k) => (k, s.drop sound.length)
where
  longer (best : Option (String × Nat)) (p : String × Nat) : Option (String × Nat) :=
    match best with
    | some b => if p.1.length > b.1.length then some p else best
    | none => some p

def syllable? (s : List Char) : Option Nat := do
  let (lead, s) ← sound? leads s
  let (vowel, s) ← sound? vowels s
  let (trail, s) ← sound? trails s
  if s.isEmpty then some (Normal.syllable + (lead * 21 + vowel) * 28 + trail) else none

def unifiedIdeographs : List (Nat × Nat) := [
    (0x3400, 0x4dbf), (0x4e00, 0x9fff), (0x20000, 0x2a6df), (0x2a700, 0x2b738), (0x2b740, 0x2b81d),
      (0x2b820, 0x2cea1),
    (0x2ceb0, 0x2ebe0), (0x30000, 0x3134a)]

def isUpperHex (c : Char) : Bool := (hexValue? c).isSome && !c.isLower

def ideograph? (s : List Char) : Option Nat :=
  let n := hexNumber s
  if (s.length == 4 || s.length == 5) && s.all isUpperHex && inRanges unifiedIdeographs n then some n
  else none

def numbered : List (String × List (Nat × Nat)) := [
    ("CJK COMPATIBILITY IDEOGRAPH-", [(0xf900, 0xfa6d), (0xfa70, 0xfad9), (0x2f800, 0x2fa1d)]),
    ("KHITAN SMALL SCRIPT CHARACTER-", [(0x18b00, 0x18cd5)]),
    ("NUSHU CHARACTER-", [(0x1b170, 0x1b2fb)])]

def codeName (n : Nat) : List Char := (hex (if n < 0x10000 then 4 else 5) n).map Char.toUpper

def numbered? (s : List Char) : Option Nat :=
  numbered.findSome? fun (lead, ranges) => do
    let digits ← after? lead.toList s
    let n := hexNumber digits
    if inRanges ranges n && codeName n == digits then some n else none

def listings : List String :=
  alphabets ++ syllables ++ signs ++ eastAsian ++ historic ++ pictures ++ notations ++ aliases

def listed? (s : List Char) : Option Nat := listings.findSome? (find? (words s))

end CharName

/-- The code point of a name. Small letters count as capital ones, other than in names of syllables
and unified ideographs. -/
def charNamed? (name : List Char) : Option Nat :=
  match after? "HANGUL SYLLABLE ".toList name, after? "CJK UNIFIED IDEOGRAPH-".toList name with
  | some s, _ => CharName.syllable? s
  | none, some s => CharName.ideograph? s
  | none, none =>
    let name := name.map Char.toUpper
    (CharName.numbered? name).or (CharName.listed? name)

end TypedTemplate.Text
