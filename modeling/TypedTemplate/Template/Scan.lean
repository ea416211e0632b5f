import TypedTemplate.Template.Fault
import TypedTemplate.Text.Digit
import TypedTemplate.Text.Identifier
import TypedTemplate.Text.Lines
import TypedTemplate.Text.Word

/-! The tokens of a template. Text runs to the first opening mark; inside a tag, the tag's end is
recognised only where no bracket is open. -/
namespace TypedTemplate.Template
open Text

/-- A text that begins with something, as what was consumed and what follows. -/
structure Match where
  text : List Char
  rest : List Char

/-- The digits, each with at most one underscore before it, at the start of a text. -/
def digitsAfter (isDigit : Char → Bool) : List Char → Match
  | '_' :: d :: s =>
    if isDigit d then
      let m := digitsAfter isDigit s
      ⟨'_' :: d :: m.text, m.rest⟩
    else ⟨[], '_' :: d :: s⟩
  | d :: s =>
    if isDigit d then
      let m := digitsAfter isDigit s
      ⟨d :: m.text, m.rest⟩
    else ⟨[], d :: s⟩
  | [] => ⟨[], []⟩

/-- A digit and the digits after it. -/
def digits? : List Char → Option Match
  | [] => none
  | d :: s =>
    if isDigit d then
      let m := digitsAfter isDigit s
      some ⟨d :: m.text, m.rest⟩
    else none

def Match.prepend (s : List Char) (m : Match) : Match := ⟨s ++ m.text, m.rest⟩

def fraction? : List Char → Option Match
  | '.' :: s => (digits? s).map (·.prepend ['.'])
  | _ => none

def exponent? : List Char → Option Match
  | e :: s =>
    if e = 'e' ∨ e = 'E' then
      match s with
      | '+' :: t => (digits? t).map (·.prepend [e, '+'])
      | '-' :: t => (digits? t).map (·.prepend [e, '-'])
      | _ => (digits? s).map (·.prepend [e])
    else none
  | [] => none

/-- Digits with a fraction, an exponent, or both. -/
def float? (s : List Char) : Option Match := do
  let whole ← digits? s
  match fraction? whole.rest with
  | some frac =>
    match exponent? frac.rest with
    | some ex => some (ex.prepend (whole.text ++ frac.text))
    | none => some (frac.prepend whole.text)
  | none => (exponent? whole.rest).map (·.prepend whole.text)

def based? (isBaseDigit : Char → Bool) (start : List Char) (s : List Char) : Option Match :=
  let m := digitsAfter isBaseDigit s
  if m.text.isEmpty then none else some (m.prepend start)

def isHexDigit (c : Char) : Bool := isDigit c || (hexValue? c).isSome

def decimal? : List Char → Option Match
  | '0' :: s => some ((digitsAfter (· == '0') s).prepend ['0'])
  | d :: s => if '1' ≤ d ∧ d ≤ '9' then some ((digitsAfter isDigit s).prepend [d]) else none
  | [] => none

def integer? : List Char → Option Match
  | '0' :: b :: s =>
    let based :=
      if b = 'b' ∨ b = 'B' then based? (fun c => c == '0' || c == '1') ['0', b] s
      else if b = 'o' ∨ b = 'O' then based? isOctal ['0', b] s
      else if b = 'x' ∨ b = 'X' then based? isHexDigit ['0', b] s
      else none
    match based with
    | some m => some m
    | none => decimal? ('0' :: b :: s)
  | s => decimal? s

def quotedBody? (q : Char) : List Char → Option Match
  | '\\' :: c :: s => (quotedBody? q s).map (·.prepend ['\\', c])
  | c :: s =>
    if c = q then some ⟨[], s⟩ else if c = '\\' then none else (quotedBody? q s).map (·.prepend [c])
  | [] => none

def isNameChar (c : Char) : Bool := isWord c || isIdentifierChar c

/-- The opening marks of a template. -/
inductive Opening where
  | raw
  | comment
  | block
  | variable

def consumed (s rest : List Char) : List Char := s.take (s.length - rest.length)

def sign? : List Char → Option Char × List Char
  | '-' :: s => (some '-', s)
  | '+' :: s => (some '+', s)
  | s => (none, s)

/-- The end of a tag: a minus sign before it takes the blanks that follow. -/
def closing? (mark : List Char) (plus : Bool) (s : List Char) : Option Match :=
  match s with
  | '-' :: t => (after? mark t).map fun rest =>
      let rest := trimStart rest
      ⟨consumed s rest, rest⟩
  | '+' :: t => if plus then (after? mark t).map fun rest => ⟨consumed s rest, rest⟩ else none
  | _ => (after? mark s).map fun rest => ⟨mark, rest⟩

def blockMark : List Char := ['%', '}']

def variableMark : List Char := ['}', '}']

def commentMark : List Char := ['#', '}']

def rawOpening? (s : List Char) : Option (Option Char × Match) := do
  let t ← after? ['{', '%'] s
  let (sign, t) := sign? t
  let t ← after? ['r', 'a', 'w'] (trimStart t)
  let close ← closing? blockMark false (trimStart t)
  pure (sign, ⟨consumed s close.rest, close.rest⟩)

def rawClosing? (s : List Char) : Option (Option Char × Match) := do
  let t ← after? ['{', '%'] s
  let (sign, t) := sign? t
  let t ← after? ['e', 'n', 'd', 'r', 'a', 'w'] (trimStart t)
  let close ← closing? blockMark true (trimStart t)
  pure (sign, ⟨consumed s close.rest, close.rest⟩)

def mark? (s : List Char) : Option (Opening × List Char) :=
  match s with
  | '{' :: '%' :: t => some (.block, t)
  | '{' :: '{' :: t => some (.variable, t)
  | '{' :: '#' :: t => some (.comment, t)
  | _ => none

def opening? (s : List Char) : Option (Opening × Option Char × Match) :=
  match rawOpening? s with
  | some (sign, m) => some (.raw, sign, m)
  | none => (mark? s).map fun (opening, t) =>
      let (sign, rest) := sign? t
      (opening, sign, ⟨consumed s rest, rest⟩)

def firstPlace {α : Type} (begins? : List Char → Option α) : List Char → Option (List Char × α)
  | [] => (begins? []).map fun a => ([], a)
  | c :: s =>
    match begins? (c :: s) with
    | some a => some ([], a)
    | none => (firstPlace begins? s).map fun (t, a) => (c :: t, a)

inductive Mode where
  | text
  | comment
  | raw
  | block
  | variable

/-- Where the scanner stands. -/
structure Scanner where
  mode : Mode
  line : Nat
  offset : Nat
  previous : Option Char
  open_ : List Operator
  rest : List Char

/-- One step of the scanner: tokens and a new place, the end, or a fault. -/
inductive Step where
  | next (tokens : List Token) (scanner : Scanner)
  | done (tokens : List Token)
  | fault (fault : Fault)

def newlines (s : List Char) : Nat := s.count '\n'

/-- Move behind a consumed text. -/
def Scanner.skip (sc : Scanner) (m : Match) (mode : Mode) : Scanner :=
  { sc with
    mode := mode
    line := sc.line + newlines m.text
    offset := sc.offset + m.text.length
    previous := (m.text.getLast?).or sc.previous
    rest := m.rest }

def dataToken (line : Nat) (text : List Char) : List Token :=
  if text.isEmpty then [] else [⟨line, .data (String.ofList text)⟩]

def keptText (sign : Option Char) (text : List Char) : List Char :=
  if sign = some '-' then trimEnd text else text

def Scanner.inText (sc : Scanner) : Step :=
  match firstPlace opening? sc.rest with
  | none => .done (dataToken sc.line sc.rest)
  | some (text, opening, sign, m) =>
    let line := sc.line + newlines text
    let data := dataToken sc.line (keptText sign text)
    let go (mode : Mode) (tokens : List Token) : Step :=
      .next (data ++ tokens) (sc.skip ⟨text ++ m.text, m.rest⟩ mode)
    match opening with
    | .raw => go .raw []
    | .comment => go .comment []
    | .block => go .block [⟨line, .blockBegin⟩]
    | .variable => go .variable [⟨line, .variableBegin⟩]

def Scanner.inComment (sc : Scanner) : Step :=
  match firstPlace (closing? commentMark true) sc.rest with
  | some (text, m) => .next [] (sc.skip ⟨text ++ m.text, m.rest⟩ .text)
  | none => if sc.rest.isEmpty then .done [] else .fault .openComment

def Scanner.inRaw (sc : Scanner) : Step :=
  match firstPlace rawClosing? sc.rest with
  | some (text, sign, m) =>
    .next (dataToken sc.line (keptText sign text)) (sc.skip ⟨text ++ m.text, m.rest⟩ .text)
  | none => if sc.rest.isEmpty then .done [] else .fault .openRaw

/-- A string constant. Characters outside ASCII are written by their codes before the escapes are
read. -/
def stringValue (body : List Char) : Except EscapeError (List Char) := do
  let value ← unescape charNamed? (asciiCoded body)
  pure (value.map charOfCode)

def Scanner.token (sc : Scanner) (m : Match) (kind : TokenKind) : Step :=
  .next [⟨sc.line, kind⟩] (sc.skip m sc.mode)

def Scanner.operator (sc : Scanner) (op : Operator) (rest : List Char) : Step :=
  let m : Match := ⟨op.text.toList, rest⟩
  match op.closer? with
  | some close => ({ sc with open_ := close :: sc.open_ }).token m (.operator op)
  | none =>
    if op.isCloser then
      match sc.open_ with
      | [] => .fault (.unbalanced op none)
      | want :: others =>
        if want = op then ({ sc with open_ := others }).token m (.operator op)
        else .fault (.unbalanced op (some want))
    else sc.token m (.operator op)

def Scanner.float? (sc : Scanner) : Option Match :=
  if sc.previous = some '.' then none else Template.float? sc.rest

def decimalDigits (text : List Char) : Nat :=
  if text.any fun c => c != '_' && !isDigit c then 0 else text.countP (· != '_')

def Scanner.integer (sc : Scanner) (m : Match) : Step :=
  let count := decimalDigits m.text
  if count > maxDigits then .fault (.digits count) else sc.token m .integer

def Scanner.word (sc : Scanner) (c : Char) : Step :=
  let text := sc.rest.takeWhile isNameChar
  if text.isEmpty then
    match if c = '\'' ∨ c = '"' then quotedBody? c sc.rest.tail else none with
    | some m =>
      match stringValue m.text with
      | .ok value => sc.token ⟨consumed sc.rest m.rest, m.rest⟩ (.string (String.ofList value))
      | .error e => .fault (.escape e)
    | none =>
      match Operator.read? sc.rest with
      | some (op, rest) => sc.operator op rest
      | none => .fault (.strangeChar c sc.offset)
  else if isIdentifier text then
    sc.token ⟨text, sc.rest.dropWhile isNameChar⟩ (.name (String.ofList text))
  else .fault .identifier

def Scanner.inTag (sc : Scanner) (close : Option Match) (kind : TokenKind) : Step :=
  match sc.rest, close with
  | [], _ => .done []
  | _, some m => .next [⟨sc.line, kind⟩] (sc.skip m .text)
  | c :: _, none =>
    if isBlank c then
      let m : Match := ⟨sc.rest.takeWhile isBlank, sc.rest.dropWhile isBlank⟩
      .next [] (sc.skip m sc.mode)
    else
      match sc.float? with
      | some m => if m.text.all (·.toNat < 128) then sc.token m .float
        else .fault (.number (String.ofList m.text))
      | none =>
        match integer? sc.rest with
        | some m => sc.integer m
        | none => sc.word c

def Scanner.step (sc : Scanner) : Step :=
  match sc.mode with
  | .text => sc.inText
  | .comment => sc.inComment
  | .raw => sc.inRaw
  | .block =>
    sc.inTag (if sc.open_.isEmpty then closing? blockMark true sc.rest else none) .blockEnd
  | .variable => sc.inTag (if sc.open_.isEmpty then closing? variableMark false sc.rest else none)
    .variableEnd

/-- The tokens up to the end or to the first fault. Each step consumes a character, so one more than
the length of the text is enough fuel. -/
def Scanner.run : Nat → Scanner → List Token × Option Failure
  | 0, _ => ([], none)
  | n + 1, sc =>
    match sc.step with
    | .next tokens sc' =>
      let (more, failure) := run n sc'
      (tokens ++ more, failure)
    | .done tokens => (tokens, none)
    | .fault f => ([], some ⟨sc.line, f⟩)

def normalise (s : List Char) : List Char :=
  let t := unifyNewlines s
  if t.getLast? = some '\n' then t.dropLast else t

def scan (source : List Char) : List Token × Option Failure :=
  let text := normalise source
  Scanner.run (text.length + 1) ⟨.text, 1, 0, none, [], text⟩

end TypedTemplate.Template
