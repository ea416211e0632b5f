import TypedTemplate.Console.Emoji
import TypedTemplate.Console.Handler

/-! Console markup: tags in square brackets open and close styles. On a plain console they print
nothing. -/
namespace TypedTemplate.Console

structure Tag where
  name : List Char
  parameters : Option (List Char)

def Tag.ofBody (body : List Char) : Tag :=
  match Text.cut? ['='] body with
  | some (name, parameters) => ⟨name, some parameters⟩
  | none => ⟨body, none⟩

def Tag.render (t : Tag) : String :=
  "[" ++ String.ofList t.name ++ (t.parameters.elim "" fun p => "=" ++ String.ofList p) ++ "]"

inductive Piece where
  | text (s : List Char)
  | tag (position : Nat) (t : Tag)

def isTagStart (c : Char) : Bool := ('a' ≤ c && c ≤ 'z') || c == '#' || c == '/' || c == '@'

/-- The body of a tag behind its opening bracket, and what follows the closing one. No opening
bracket stands in it. -/
def tagBody? (s : List Char) : Option (List Char × List Char) :=
  match s with
  | c :: _ =>
    if isTagStart c then
      let body := s.takeWhile fun c => c != ']' && c != '['
      match s.drop body.length with
      | ']' :: rest => some (body, rest)
      | _ => none
    else none
  | [] => none

def tagHere? (s : List Char) : Option (Nat × List Char × List Char) :=
  let slashes := (s.takeWhile (· == '\\')).length
  match s.drop slashes with
  | '[' :: rest => (tagBody? rest).map fun (body, rest) => (slashes, body, rest)
  | _ => none

def tagPieces (position slashes : Nat) (body : List Char) : List Piece :=
  let kept := List.replicate (slashes / 2) '\\'
  let front := if kept.isEmpty then [] else [Piece.text kept]
  if slashes % 2 == 1 then front ++ [.text ('[' :: body ++ [']'])]
  else front ++ [.tag (position + slashes) (.ofBody body)]

def textPiece (reversed : List Char) : List Piece :=
  if reversed.isEmpty then [] else [.text reversed.reverse]

/-- The pieces of a text from a position on; `reversed` is the text in front that belongs to no tag,
backwards. -/
def piecesFrom : Nat → (position : Nat) → (reversed : List Char) → List Char → List Piece
  | 0, _, reversed, _ => textPiece reversed
  | _ + 1, _, reversed, [] => textPiece reversed
  | n + 1, position, reversed, c :: s =>
    match tagHere? (c :: s) with
    | some (slashes, body, rest) =>
      textPiece reversed ++ tagPieces position slashes body ++ piecesFrom n
        (position + slashes + body.length + 2) [] rest
    | none => piecesFrom n (position + 1) (c :: reversed) s

def pieces (s : List Char) : List Piece := piecesFrom (s.length + 1) 0 [] s

inductive MarkupError where
  /-- A closing tag for a style that is not open. -/
  | unmatched (tag : String) (position : Nat)
  /-- A closing tag for the last style when none is open. -/
  | nothingOpen (position : Nat)
  /-- A tag with a colour that lacks a number. -/
  | missingNumber
  /-- A handler whose parameters cannot be read. -/
  | handler (parameters : List Char) (cause : HandlerFault)

def MarkupError.message : MarkupError → String
  | unmatched tag position =>
    "closing tag '" ++ tag ++ "' at position " ++ toString position ++ " doesn't match any open tag"
  | nothingOpen position =>
    "closing tag '[/]' at position " ++ toString position ++ " has nothing to close"
  | missingNumber => "invalid literal for int() with base 10: ''"
  | handler parameters cause => cause.message parameters

def tagName (s : List Char) : Except MarkupError String :=
  match normalName? s with
  | some name => .ok name
  | none => .error .missingNumber

structure OpenTag where
  name : String
  parameters : Option (List Char)

def OpenTag.close (t : OpenTag) : Except MarkupError Unit :=
  match t.parameters with
  | some (c :: s) =>
    if t.name.startsWith "@" then (checkHandler (c :: s)).mapError (.handler (c :: s)) else .ok ()
  | _ => .ok ()

/-- The open styles, the last one first, after a tag. -/
def applyTag (position : Nat) (t : Tag) (opened : List OpenTag) :
    Except MarkupError (List OpenTag) :=
  match t.name with
  | '/' :: name =>
    if (Text.trim name).isEmpty then
      match opened with
      | last :: rest => last.close.map fun _ => rest
      | [] => .error (.nothingOpen position)
    else do
      let name ← tagName (Text.trim name)
      match opened.find? (·.name == name) with
      | some o => o.close.map fun _ => opened.eraseP (·.name == name)
      | none => .error (.unmatched t.render position)
  | name => (tagName name).map fun n => ⟨n, t.parameters⟩ :: opened

def isUnprinted (c : Char) : Bool :=
  let n := c.toNat
  n == 7 || n == 8 || n == 11 || n == 12 || n == 13

def unescapeBrackets : List Char → List Char
  | '\\' :: '[' :: s => '[' :: unescapeBrackets s
  | c :: s => c :: unescapeBrackets s
  | [] => []

def printed (s : List Char) : List Char := (withEmoji s).filter fun c => !isUnprinted c

def plainFrom : List OpenTag → List Piece → Except MarkupError (List Char)
  | _, [] => .ok []
  | opened, .text s :: rest => do
    let out ← plainFrom opened rest
    pure (printed (unescapeBrackets s) ++ out)
  | opened, .tag position t :: rest => do
    let opened ← applyTag position t opened
    plainFrom opened rest

def plain (s : List Char) : Except MarkupError (List Char) :=
  if s.contains '[' then plainFrom [] (pieces s) else .ok (printed s)

end TypedTemplate.Console
