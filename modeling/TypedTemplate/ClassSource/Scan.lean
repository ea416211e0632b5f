import TypedTemplate.ClassSource.Token
import TypedTemplate.Text.Identifier
import TypedTemplate.Text.Normal.Undotted

/-! Cutting a class source into tokens. -/
namespace TypedTemplate.ClassSource

structure Opener where
  bracket : Char
  line : Nat

/-- Open brackets and the columns of open blocks, innermost first, and the number of the line. A
column is counted twice, with tabs to the next multiple of eight and with tabs of width one, and
both counts have to agree on the order of lines. -/
structure Layout where
  brackets : List Opener
  columns : List (Nat × Nat)
  line : Nat

namespace Layout

def start : Layout := ⟨[], [(0, 0)], 1⟩

def maxBrackets : Nat := 200

def maxBlocks : Nat := 100

def column (l : Layout) : Nat × Nat := l.columns.headD (0, 0)

def below (l : Layout) (lines : Nat) : Layout := { l with line := l.line + lines }

def closing (l : Layout) (c : Char) : Except Fault Layout :=
  match l.brackets with
  | o :: rest =>
    if isPair o.bracket c then .ok { l with brackets := rest }
    else .error (.mismatched c o.bracket (if o.line = l.line then none else some o.line))
  | [] => .error (.unmatched c)

def bracket (l : Layout) (sign : String) : Except Fault Layout :=
  match sign.toList with
  | [c] =>
    if c == '(' || c == '[' || c == '\x7b' then
      if l.brackets.length ≥ maxBrackets then .error .tooManyBrackets
      else .ok { l with brackets := ⟨c, l.line⟩ :: l.brackets }
    else if c == ')' || c == ']' || c == '\x7d' then l.closing c
    else .ok l
  | _ => .ok l

def close (col : Nat) : List (Nat × Nat) → List (Nat × Nat) × List Token
  | [] => ([], [])
  | (c, a) :: rest =>
    if col < c then
      let (left, out) := close col rest
      (left, .dedent :: out)
    else ((c, a) :: rest, [])

/-- Begins a line of code at a column. -/
def begin (l : Layout) (col alt : Nat) : Except Fault (Layout × List Token) :=
  let (c, a) := l.column
  if !l.brackets.isEmpty then .ok (l, [])
  else if col == c then if alt == a then .ok (l, []) else .error .mixedTabs
  else if col > c then
    if l.columns.length ≥ maxBlocks then .error .tooManyBlocks
    else if alt ≤ a then .error .mixedTabs
    else .ok ({ l with columns := (col, alt) :: l.columns }, [.indent])
  else
    let (left, out) := close col l.columns
    match left.head? with
    | some (c, a) =>
      if c != col then .error .outerIndentation
      else if a != alt then .error .mixedTabs
      else .ok ({ l with columns := left }, out)
    | none => .error .outerIndentation

end Layout

/-- The start of a line's text: its column by both counts, and the number of line ends behind
backslashes before it. -/
structure LineStart where
  col : Nat
  alt : Nat
  lines : Nat
  rest : List Char

/-- The column at which a line's text begins. A line that goes on after a backslash keeps the column
of the first backslash that stands behind a blank. -/
def indentation : (col alt kept lines : Nat) → List Char → Except Fault LineStart
  | col, alt, kept, lines, ' ' :: s => indentation (col + 1) (alt + 1) kept lines s
  | col, alt, kept, lines, '\t' :: s => indentation ((col / 8 + 1) * 8) (alt + 1) kept lines s
  | _, _, kept, lines, '\x0c' :: s => indentation 0 0 kept lines s
  | col, alt, kept, lines, '\\' :: '\n' :: s =>
    if s.isEmpty then .error .continuation
      else indentation col alt (if kept == 0 then col else kept) (lines + 1) s
  | _, _, _, _, '\\' :: _ => .error .continuation
  | col, alt, kept, lines, s =>
    .ok (if kept == 0 then ⟨col, alt, lines, s⟩ else ⟨kept, kept, lines, s⟩)

/-- The text up to the closing quotes, and what follows them. A backslash keeps the next character
from closing it. -/
def quotedBody (q : Char) (triple : Bool) : List Char → Option (List Char × List Char)
  | [] => none
  | '\\' :: c :: s => (quotedBody q triple s).map fun (b, r) => ('\\' :: c :: b, r)
  | c :: s =>
    if c == q then
      if triple then
        match s with
        | c₁ :: c₂ :: r =>
          if c₁ == q && c₂ == q then some ([], r)
          else (quotedBody q triple s).map fun (b, r) => (c :: b, r)
        | _ => none
      else some ([], s)
    else if c == '\n' && !triple then none
    else (quotedBody q triple s).map fun (b, r) => (c :: b, r)

def openLines (triple : Bool) : List Char → Nat
  | [] => 0
  | '\\' :: c :: s => (if c == '\n' && !s.isEmpty then 1 else 0) + openLines triple s
  | c :: s => if c == '\n' then if triple && !s.isEmpty then 1 + openLines triple s else 0
    else openLines triple s

def quotedRest (q : Char) (triple : Bool) (line : Nat) (s : List Char) :
    Except Fault (List Char × List Char) :=
  match quotedBody q triple s with
  | some found => .ok found
  | none => .error (.openText triple (line + openLines triple s))

def quotedText (line : Nat) (s : List Char) : Except Fault (List Char × List Char) :=
  match s with
  | q :: q₁ :: q₂ :: r =>
    if q₁ == q && q₂ == q then quotedRest q true line r else quotedRest q false line (q₁ :: q₂ :: r)
  | q :: r => quotedRest q false line r
  | [] => .error .general

def pieceLetters : List String := ["", "b", "r", "u", "f", "br", "rb", "fr", "rf"]

def isQuote (c : Char) : Bool := c == '\'' || c == '"'

def piece? (line : Nat) (s : List Char) : Except Fault (Option (Piece × List Char)) :=
  let (letters, rest) := s.span Char.isAlpha
  let low := letters.map Char.toLower
  if pieceLetters.contains (String.ofList low) && (rest.head?.any isQuote) then do
    let (body, rest) ← quotedText line rest
    .ok (some (⟨low.contains 'r', low.contains 'b', low.contains 'f', letters == ['u'], body⟩,
      rest))
  else .ok none

def isWordStart (c : Char) : Bool := c.isAlpha || c == '_' || c.toNat ≥ 128

def strayChar? : List Char → Option Char
  | [] => none
  | c :: s => if Text.isIdentifierStart c then s.find? fun c => !Text.isIdentifierChar c else some c

def wordName (s : List Char) : PlainName where
  text := String.ofList (Text.Normal.form (s.takeWhile Number.isWordByte))
  undotted := by
    rw [String.toList_ofList]
    exact Text.Normal.undotted_form fun h => absurd (List.all_eq_true.1 List.all_takeWhile '.' h)
      (by decide)

def wordToken (s : List Char) : Except Fault (Token × List Char) :=
  let w := s.takeWhile Number.isWordByte
  let rest := s.dropWhile Number.isWordByte
  let text := String.ofList w
  if keywords.contains text then .ok (.sign text, rest)
  else
    match strayChar? w with
    | none => .ok (.name (wordName s), rest)
    | some c => .error (.character c)

def signToken (c : Char) (s : List Char) : Except Fault (Token × List Char) :=
  match signs.find? fun w => w.toList.isPrefixOf (c :: s) with
  | some w => .ok (.sign w, (c :: s).drop w.length)
  | none => if Text.isPrintable c then .ok (.sign (String.singleton c), s)
    else .error (.character c)

/-- A token inside a line. -/
def token (line : Nat) (s : List Char) : Except Fault (Token × List Char) := do
  match ← piece? line s with
  | some (p, rest) => .ok (.text p, rest)
  | none =>
    match s with
    | [] => .error .general
    | c :: r =>
      if isWordStart c then wordToken s
      else if c.isDigit || (c == '.' && r.head?.any Char.isDigit) then
        let (n, rest) ← Number.read s
        .ok (.number n, rest)
      else signToken c r

structure Scanned where
  tokens : List Token
  depth : Nat
  fault : Option Fault

namespace Scanned

def broken (l : Layout) (reversed : List Token) (cause : Fault) : Scanned :=
  ⟨(.broken cause :: reversed).reverse, l.brackets.length, some cause⟩

end Scanned

def lineEnds (s : List Char) : Nat := s.countP (· == '\n')

def Token.lineEnds : Token → Nat
  | text p => ClassSource.lineEnds p.body
  | _ => 0

def finishScan (l : Layout) (out : List Token) : Scanned :=
  match l.brackets with
  | o :: _ => .broken l out (.neverClosed o.bracket)
  | [] =>
    match l.begin 0 0 with
    | .ok (_, closing) => ⟨(closing.reverse ++ out).reverse, 0, none⟩
    | .error cause => .broken l out cause

/-- Each step takes a character at least, so the length of the text bounds the number of steps. -/
def scanFrom : Nat → Layout → (atStart : Bool) → List Token → List Char → Scanned
  | 0, l, _, out, _ => .broken l out .general
  | n + 1, l, true, out, s =>
    match indentation 0 0 0 0 s with
    | .error cause => .broken l out cause
    | .ok start =>
      let l := l.below start.lines
      match start.rest with
      | [] => finishScan l out
      | '#' :: r => scanFrom n (l.below 1) true out (r.dropWhile (· != '\n') |>.drop 1)
      | '\n' :: r => scanFrom n (l.below 1) true out r
      | r =>
        match l.begin start.col start.alt with
        | .ok (l, opening) => scanFrom n l false (opening.reverse ++ out) r
        | .error cause => .broken l out cause
  | n + 1, l, false, out, s =>
    match s with
    | [] => .broken l out .continuation
    | ' ' :: r => scanFrom n l false out r
    | '\t' :: r => scanFrom n l false out r
    | '\x0c' :: r => scanFrom n l false out r
    | '#' :: r => scanFrom n l false out (r.dropWhile (· != '\n'))
    | '\\' :: '\n' :: r => if r.isEmpty then .broken l out .continuation
      else scanFrom n (l.below 1) false out r
    | '\\' :: _ => .broken l out .continuation
    | '\n' :: r =>
      scanFrom n (l.below 1) true (if l.brackets.isEmpty then .lineEnd :: out else out) r
    | _ =>
      match token l.line s with
      | .error cause => .broken l out cause
      | .ok (.sign w, r) =>
        match l.bracket w with
        | .ok l => scanFrom n l false (.sign w :: out) r
        | .error cause => .broken l out cause
      | .ok (t, r) => scanFrom n (l.below t.lineEnds) false (t :: out) r

/-- The tokens of a source whose lines end in newlines. A last newline is put in where it is
missing. -/
def scan (s : List Char) : Scanned :=
  if s.contains '\x00' then .broken .start [] .nullByte
  else
    let s := if s.getLast? == some '\n' || s.isEmpty then s else s ++ ['\n']
    scanFrom (2 * s.length + 2) .start true [] s

end TypedTemplate.ClassSource
