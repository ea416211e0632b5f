import TypedTemplate.Text.Normal.Composition
import TypedTemplate.Text.Normal.Decomposition
import TypedTemplate.Text.Normal.Marks

/-! The composed compatibility form of a text: two spellings of an identifier that have the same
form are one identifier. -/
namespace TypedTemplate.Text.Normal

/-- The first syllable, leading consonant, vowel and trailing consonant; trailing consonants count
from one behind it. -/
def syllable : Nat := 0xac00
def lead : Nat := 0x1100
def vowel : Nat := 0x1161
def trail : Nat := 0x11a7

def expandSyllable (i : Nat) : List Char :=
  let t := i % 28
  [Char.ofNat (lead + i / 588), Char.ofNat (vowel + i % 588 / 28)] ++ if t == 0 then []
    else [Char.ofNat (trail + t)]

def expand (c : Char) : List Char :=
  let n := c.toNat
  if n < 0x80 then [c]
  else if syllable ≤ n && n < syllable + 11172 then expandSyllable (n - syllable)
  else (decompositions.lookup c).getD [c]

def placeMark (c : Char) : List Char → List Char
  | [] => [c]
  | d :: s => if markClass d > markClass c then d :: placeMark c s else c :: d :: s

def arrange (s : List Char) : List Char :=
  (s.foldl (fun out c => if markClass c == 0 then c :: out else placeMark c out) []).reverse

def composePair? (a b : Char) : Option Char :=
  let m := a.toNat
  let n := b.toNat
  if lead ≤ m && m < lead + 19 && vowel ≤ n && n < vowel + 21 then
    some (Char.ofNat (syllable + ((m - lead) * 21 + (n - vowel)) * 28))
  else if syllable ≤ m && m < syllable + 11172 && (m - syllable) % 28 == 0 && trail < n &&
    n < trail + 28 then some (Char.ofNat (m + (n - trail)))
  else compositions.lookup (a, b)

/-- Composed text so far: finished characters in reverse, the open base, and the marks behind it in
reverse. -/
structure Composing where
  done : List Char
  base : Option Char
  marks : List Char

/-- A character joins the open base unless a mark of its class or a higher one stands between. -/
def Composing.add (st : Composing) (c : Char) : Composing :=
  let k := markClass c
  match st.base with
  | none => if k == 0 then { st with base := some c } else { st with done := c :: st.done }
  | some b =>
    let blocked :=
      match st.marks with
      | [] => false
      | m :: _ => markClass m ≥ k
    match if blocked then none else composePair? b c with
    | some d => { st with base := some d }
    | none =>
      if k == 0 then ⟨st.marks ++ b :: st.done, some c, []⟩ else { st with marks := c :: st.marks }

def Composing.text (st : Composing) : List Char := (st.marks ++ st.base.toList ++ st.done).reverse

def compose (s : List Char) : List Char := (s.foldl Composing.add ⟨[], none, []⟩).text

def form (s : List Char) : List Char :=
  if s.all fun c => c.toNat < 0x80 then s else compose (arrange (s.flatMap expand))

end TypedTemplate.Text.Normal
