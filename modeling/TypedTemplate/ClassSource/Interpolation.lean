import TypedTemplate.ClassSource.Expr
import TypedTemplate.ClassSource.TextValue

/-! Text literals side by side. A formatted literal holds expressions in braces; the reader of
expressions is a parameter. -/
namespace TypedTemplate.ClassSource

structure Joining where
  parts : List Expr
  pending : List Nat

namespace Joining

def start : Joining := ⟨[], []⟩

def addText (j : Joining) (s : List Nat) : Joining := { j with pending := j.pending ++ s }

def flushed (j : Joining) : List Expr :=
  if j.pending.isEmpty then j.parts else .leaf (.text j.pending false) :: j.parts

def addExpr (j : Joining) (e : Expr) : Joining := ⟨e :: j.flushed, []⟩

def joined (j : Joining) : Expr := .mk .joined j.flushed.reverse

end Joining

def isBrace (c : Char) : Bool := c == '\x7b' || c == '\x7d'

structure LiteralRun where
  text : List Char
  doubled : Bool
  rest : List Char

namespace LiteralRun

def behind (front : List Char) (r : LiteralRun) : LiteralRun := { r with text := front ++ r.text }

def atBrace (outer : Bool) (c : Char) (s : List Char) : Except Fault LiteralRun :=
  if outer && s.head? == some c then .ok ⟨[c], true, s.tail⟩
  else if outer && c == '\x7d' then .error (.brace .loneCloser)
  else .ok ⟨[], false, c :: s⟩

/-- Plain text up to a brace. The braces of a character name do not count. -/
def read (raw outer : Bool) : (naming : Bool) → List Char → Except Fault LiteralRun
  | _, [] => .ok ⟨[], false, []⟩
  | true, c :: s => (read raw outer (c != '\x7d') s).map (behind [c])
  | false, c :: s =>
    if c == '\\' && !raw then
      match s with
      | [] => .ok ⟨[c], false, []⟩
      | d :: r =>
        if d == 'N' then
          match r with
          | b :: r' => (read raw outer (b == '\x7b') r').map (behind [c, d, b])
          | [] => .ok ⟨[c, d], false, []⟩
        else if isBrace d then (atBrace outer d r).map (behind [c])
        else (read raw outer false r).map (behind [c, d])
    else if isBrace c then atBrace outer c s
    else (read raw outer false s).map (behind [c])

end LiteralRun

abbrev Cut := List Char × List Char

def Cut.behind (front : List Char) (r : Cut) : Cut := (front ++ r.1, r.2)

/-- The text of an expression in braces: it ends at a colon, an exclamation mark, an equals sign or
the closing brace outside brackets and quotes. It holds neither a backslash nor a comment. Each step
takes a character. -/
def expressionRun : Nat → Option (Char × Bool) → List Char → List Char → Except Fault Cut
  | 0, _, _, _ => .error (.brace .unfinished)
  | _ + 1, some _, _, [] => .error (.brace .openText)
  | _ + 1, none, o :: _, [] => .error (.brace (.unmatched o))
  | _ + 1, none, [], [] => .error (.brace .unfinished)
  | n + 1, some (m, triple), brackets, c :: s =>
    if c == '\\' then .error (.brace .backslash)
    else if c == m && !triple then (expressionRun n none brackets s).map (Cut.behind [c])
    else if c == m && [m, m].isPrefixOf s then (expressionRun n none brackets (s.drop 2)).map
      (Cut.behind [m, m, m])
    else (expressionRun n (some (m, triple)) brackets s).map (Cut.behind [c])
  | n + 1, none, brackets, c :: s =>
    if c == '\\' then .error (.brace .backslash)
    else if c == '\'' || c == '"' then
      if [c, c].isPrefixOf s then (expressionRun n (some (c, true)) brackets (s.drop 2)).map
        (Cut.behind [c, c, c])
      else (expressionRun n (some (c, false)) brackets s).map (Cut.behind [c])
    else if c == '(' || c == '[' || c == '\x7b' then
      if brackets.length ≥ 200 then .error (.brace .tooManyBrackets)
      else (expressionRun n none (c :: brackets) s).map (Cut.behind [c])
    else if c == '#' then .error (.brace .comment)
    else if brackets.isEmpty && (c == '!' || c == '=' || c == '<' || c == '>') then
      if s.head? == some '=' then (expressionRun n none brackets s.tail).map (Cut.behind [c, '='])
      else if c == '<' || c == '>' then (expressionRun n none brackets s).map (Cut.behind [c])
      else .ok ([], c :: s)
    else if brackets.isEmpty && (c == ':' || c == '\x7d') then .ok ([], c :: s)
    else if c == ')' || c == ']' || c == '\x7d' then
      match brackets with
      | o :: rest =>
        if isPair o c then (expressionRun n none rest s).map (Cut.behind [c])
        else .error (.brace (.mismatched c o))
      | [] => .error (.brace (.unmatched c))
    else (expressionRun n none brackets s).map (Cut.behind [c])

def isGap (c : Char) : Bool := c == ' ' || c == '\t' || c == '\n' || c == '\x0c'

def conversions : List Char := ['s', 'r', 'a']

def missingExpression (rest : List Char) : Fault :=
  match rest with
  | c :: _ => if c == '!' || c == ':' || c == '=' then .brace (.missingBefore c) else .brace .empty
  | [] => .brace .empty

def conversionMark (s : List Char) : Except Fault (Option Char × List Char) :=
  match s with
  | '!' :: c :: r => if conversions.contains c then .ok (some c, r) else .error (.brace .conversion)
  | '!' :: [] => .error (.brace .unfinished)
  | _ => .ok (none, s)

/-- An expression in braces, after the opening one: the text it shows of itself, the expression and
what follows. -/
def replacement (value : List Char → Except Fault Expr)
    (format : List Char → Except Fault (Expr × List Char))
    (s : List Char) : Except Fault (List Char × Expr × List Char) := do
  let (text, rest) ← expressionRun (s.length + 1) none [] s
  if text.all isGap then .error (missingExpression rest)
  else
    let e ← value ('(' :: text ++ [')'])
    let (shown, rest) :=
      match rest with
      | '=' :: r =>
        let (gap, r) := r.span fun c => isGap c || c == '\x0b' || c == '\r'
        (text ++ '=' :: gap, r)
      | _ => ([], rest)
    let (conversion, rest) ← conversionMark rest
    let (spec, rest) ←
      match rest with
      | ':' :: r =>
        if r.isEmpty then .error (.brace .unfinished)
        else (format r).map fun (f, r) => ([f], r)
      | _ => .ok ([], rest)
    let conversion := if !shown.isEmpty && conversion.isNone && spec.isEmpty then some 'r'
      else conversion
    match rest with
    | '\x7d' :: r => .ok (shown, .mk (.formatted conversion) (e :: spec), r)
    | _ => .error (.brace .unfinished)

/-- A format may hold expressions, whose formats hold none. Each step takes a character. -/
def joinFrom (value : List Char → Except Fault Expr) (raw : Bool) :
    Nat → (level : Nat) → Joining → List Char → Except Fault (Joining × List Char)
  | 0, _, _, _ => .error (.brace .unfinished)
  | n + 1, level, j, s => do
    let run ← LiteralRun.read raw (level == 0) false s
    let j := j.addText (← plainValue raw run.text)
    if run.doubled then joinFrom value raw n level j run.rest
    else
      match run.rest with
      | '\x7b' :: r =>
        if level ≥ 2 then .error (.brace .tooDeep)
        else
          let format (s : List Char) : Except Fault (Expr × List Char) := do
            let (f, r) ← joinFrom value raw n (level + 1) .start s
            if r.head? == some '\x7d' then .ok (f.joined, r) else .error (.brace .unfinished)
          let (shown, e, r) ← replacement value format r
          joinFrom value raw n level ((j.addText (Text.codes shown)).addExpr e) r
      | _ => .ok (j, run.rest)

def joinPiece (value : List Char → Except Fault Expr) (j : Joining) (p : Piece) :
    Except Fault Joining :=
  if p.formatted then (joinFrom value p.raw (p.body.length + 1) 0 j p.body).map (·.1)
  else (plainValue p.raw p.body).map j.addText

/-- Text literals from the first one on. A byte literal among them is read before it is refused. -/
def joinTexts (value : List Char → Except Fault Expr) : Joining → List Piece → Except Fault Joining
  | j, [] => .ok j
  | j, p :: ps => do
    if p.bytes then
      discard p.byteValue
      .error .mixedText
    else joinTexts value (← joinPiece value j p) ps

/-- Byte literals from the first one on. A plain text among them is read before it is refused. -/
def joinBytes : List Piece → Except Fault (List Nat)
  | [] => .ok []
  | p :: ps => do
    if p.bytes then .ok ((← p.byteValue) ++ (← joinBytes ps))
    else
      unless p.formatted do discard (plainValue p.raw p.body)
      .error .mixedText

def literal (value : List Char → Except Fault Expr) (pieces : List Piece) : Except Fault Expr := do
  if pieces.head?.any (·.bytes) then .ok (.leaf (.bytes (← joinBytes pieces)))
  else
    let j ← joinTexts value .start pieces
    if pieces.any (·.formatted) then .ok j.joined
    else .ok (.leaf (.text j.pending (pieces.head?.any (·.marked))))

end TypedTemplate.ClassSource
