import TypedTemplate.ClassSource.Literal

/-! Expressions written in one normal form: no needless parentheses, one blank around binary signs,
literals by value. -/
namespace TypedTemplate.ClassSource

/-- Where an expression is written: on its own, or inside an interpolation, where no backslash may
stand. -/
inductive Setting where
  | plain
  | guarded
  deriving DecidableEq

namespace Form

def strength : Form → Strength
  | tuple => .tuple
  | conjunction => .conjunction
  | disjunction => .disjunction
  | binary _ s => s
  | unary sign => if sign == "not" then .negation else .factor
  | compare _ => .comparison
  | conditional => .test
  | lambda _ => .test
  | named => .named
  | await => .awaiting
  | yield => .yielding
  | yieldFrom => .yielding
  | _ => .atom

def rising (s : Strength) : Nat → List Strength
  | 0 => []
  | n + 1 => s.next :: rising s.next n

def clauseAsks (c : Clause) : List Strength :=
  .tuple :: .disjunction :: List.replicate c.conditions .disjunction

def dictAsks (keyed : List Bool) : List Strength :=
  keyed.flatMap fun k => if k then [.test, .test] else [.bitOr]

/-- What strength each part is asked for. -/
def asks (f : Form) (parts : List Expr) : List Strength :=
  match f with
  | attr _ => [.atom]
  | subscript =>
    match parts with
    | [_, .mk tuple _] => [.atom, .tuple]
    | _ => [.atom, .test]
  | call _ => .atom :: List.replicate (parts.length - 1) .test
  | starred => [.bitOr]
  | dict keyed => dictAsks keyed
  | conjunction => rising .conjunction parts.length
  | disjunction => rising .disjunction parts.length
  | binary sign s => if sign == "**" then [s.next, s] else [s, s.next]
  | unary sign => [(unary sign).strength]
  | compare _ => List.replicate parts.length .bitOr
  | conditional => [.disjunction, .disjunction, .test]
  | named => [.atom, .atom]
  | await => [.atom]
  | yield => [.atom]
  | yieldFrom => [.atom]
  | comprehension kind clauses =>
    (match kind with | .dict => [.test, .test] | _ => [.test]) ++ clauses.flatMap clauseAsks
  | _ => List.replicate parts.length .test

end Form

def commas (ts : List (List Char)) : List Char := List.intercalate [',', ' '] ts

def row (ts : List (List Char)) : List Char :=
  match ts with
  | [t] => t ++ [',']
  | _ => commas ts

def writeCall (keys : List (Option String)) (args : List (List Char)) : List Char :=
  let (plain, keyed) := args.splitAt (args.length - keys.length)
  let pair (k : Option String) (v : List Char) : List Char :=
    match k with
    | some k => k.toList ++ '=' :: v
    | none => '*' :: '*' :: v
  commas (plain ++ keys.zipWith pair keyed)

def writeDict : List Bool → List (List Char) → List (List Char)
  | true :: ks, k :: v :: ts => (k ++ ':' :: ' ' :: v) :: writeDict ks ts
  | false :: ks, v :: ts => ('*' :: '*' :: v) :: writeDict ks ts
  | _, _ => []

def writeClauses : List Clause → List (List Char) → List Char
  | c :: cs, target :: source :: ts =>
    let (conditions, rest) := ts.splitAt c.conditions
    (if c.isAsync then " async for " else " for ").toList ++ target ++ " in ".toList ++ source ++
      conditions.flatMap (" if ".toList ++ ·) ++ writeClauses cs rest
  | _, _ => []

def writeLambda : List (String × Bool) → List (List Char) → List (List Char) × List Char
  | (p, true) :: ps, d :: ts =>
    let (items, body) := writeLambda ps ts
    ((p.toList ++ '=' :: d) :: items, body)
  | (p, _) :: ps, ts =>
    let (items, body) := writeLambda ps ts
    (p.toList :: items, body)
  | [], ts => ([], ts.headD [])

def writeComparison : List String → List (List Char) → List Char
  | s :: ss, t :: ts => t ++ ' ' :: s.toList ++ ' ' :: writeComparison ss ts
  | _, ts => ts.headD []

def enclose (o c : Char) (t : List Char) : List Char := o :: t ++ [c]

def writeComprehension (kind : Collection) (clauses : List Clause) (ts : List (List Char)) :
    List Char :=
  match kind, ts with
  | .list, t :: ts => enclose '[' ']' (t ++ writeClauses clauses ts)
  | .set, t :: ts => enclose '\x7b' '\x7d' (t ++ writeClauses clauses ts)
  | .generator, t :: ts => enclose '(' ')' (t ++ writeClauses clauses ts)
  | .dict, k :: v :: ts => enclose '\x7b' '\x7d' (k ++ ':' :: ' ' :: v ++ writeClauses clauses ts)
  | _, _ => []

def writeSlice (lower upper step : Bool) (ts : List (List Char)) : List Char :=
  let (a, ts) := if lower then (ts.headD [], ts.tail) else ([], ts)
  let (b, ts) := if upper then (ts.headD [], ts.tail) else ([], ts)
  a ++ ':' :: b ++ if step then ':' :: ts.headD [] else []

/-- A blank keeps the point of an attribute apart from a whole number. -/
def isWhole (e : Expr) : Bool :=
  match e.form with
  | .number (.whole _) => true
  | .truth _ => true
  | _ => false

def isText (e : Expr) : Bool :=
  match e.form with
  | .text _ _ => true
  | _ => false

/-- An interpolation, from the text of its value and the code points of its formats. A value with a
backslash cannot be written. -/
def writeFormatted (conversion : Option Char) (value : List Char) (formats : List (List Nat)) :
    Option (List Nat) :=
  if value.contains '\\' then none
  else
    let value := if value.head? == some '\x7b' then ' ' :: value else value
    let shown := conversion.elim [] fun c => ['!', c]
    some (Text.codes ('\x7b' :: value ++ shown) ++ formats.flatMap (':'.toNat :: ·) ++
      ['\x7d'.toNat])

def doubleBraces (s : List Nat) : List Nat :=
  s.flatMap fun n => if n == '\x7b'.toNat || n == '\x7d'.toNat then [n, n] else [n]

def writeInterpolated (setting : Setting) (parts : List Expr) (ts : List (List Nat)) : List Char :=
  match setting with
  | .plain => 'f' :: writeJoined (ts.zip (parts.map isText))
  | .guarded => 'f' :: writeSparing ts.flatten

/-- An expression without outer parentheses, from the texts of its parts. -/
def assemble (setting : Setting) (f : Form) (parts : List Expr) (ts : List (List Char)) :
    Option (List Char) :=
  match f, ts with
  | .name id, _ => some id.toList
  | .number n, _ => n.render.map String.toList
  | .text s marked, _ =>
    let lead := if marked then ['u'] else []
    match setting with
    | .plain => some (lead ++ Text.quotedCodes s)
    | .guarded => some (lead ++ writeSparing s)
  | .bytes s, _ => some (writeBytes s)
  | .truth b, _ => some (if b then "True" else "False").toList
  | .none, _ => some "None".toList
  | .ellipsis, _ => some "...".toList
  | .attr name, [t] => some (t ++ (if parts.any isWhole then [' ', '.'] else ['.']) ++ name.toList)
  | .subscript, [t, i] => some (t ++ enclose '[' ']' i)
  | .call keys, t :: args => some (t ++ enclose '(' ')' (writeCall keys args))
  | .starred, [t] => some ('*' :: t)
  | .tuple, _ => some (row ts)
  | .list, _ => some (enclose '[' ']' (commas ts))
  | .set, _ => some (enclose '\x7b' '\x7d' (commas ts))
  | .dict keyed, _ => some (enclose '\x7b' '\x7d' (commas (writeDict keyed ts)))
  | .conjunction, _ => some (List.intercalate " and ".toList ts)
  | .disjunction, _ => some (List.intercalate " or ".toList ts)
  | .binary sign _, [a, b] => some (a ++ ' ' :: sign.toList ++ ' ' :: b)
  | .unary sign, [t] => some (sign.toList ++ (if sign == "not" then ' ' :: t else t))
  | .compare signs, _ => some (writeComparison signs ts)
  | .conditional, [a, t, b] => some (a ++ " if ".toList ++ t ++ " else ".toList ++ b)
  | .lambda params, _ =>
    let (items, body) := writeLambda params ts
    let shown := if items.isEmpty then [] else ' ' :: commas items
    some ("lambda".toList ++ shown ++ ": ".toList ++ body)
  | .named, [a, b] => some (a ++ " := ".toList ++ b)
  | .await, [t] => some ("await ".toList ++ t)
  | .yield, [] => some "yield".toList
  | .yield, [t] => some ("yield ".toList ++ t)
  | .yieldFrom, [t] => some ("yield from ".toList ++ t)
  | .comprehension kind clauses, _ => some (writeComprehension kind clauses ts)
  | .slice lower upper step, _ => some (writeSlice lower upper step ts)
  | _, _ => none

def parenthesised (asked : Strength) (f : Form) (parts : List Expr) : Bool :=
  match f, parts with
  | .tuple, [] => true
  | _, _ => asked.exceeds f.strength

mutual

def renderAt (setting : Setting) (asked : Strength) : Expr → Option (List Char)
  | .mk .joined parts => (innerParts parts).map (writeInterpolated setting parts)
  | .mk f parts => do
    let ts ← renderParts setting (f.asks parts) parts
    let t ← assemble setting f parts ts
    pure (if parenthesised asked f parts then enclose '(' ')' t else t)

def renderParts (setting : Setting) : List Strength → List Expr → Option (List (List Char))
  | a :: as, e :: es => do
    let t ← renderAt setting a e
    let ts ← renderParts setting as es
    pure (t :: ts)
  | _, _ => pure []

/-- A part of a text with interpolations, before quotes are chosen. -/
def innerPart : Expr → Option (List Nat)
  | .mk (.text s _) _ => some (doubleBraces s)
  | .mk .joined parts => (innerParts parts).map List.flatten
  | .mk (.formatted conversion) (value :: formats) => do
    let t ← renderAt .guarded .disjunction value
    writeFormatted conversion t (← innerParts formats)
  | _ => none

def innerParts : List Expr → Option (List (List Nat))
  | [] => pure []
  | e :: es => do
    let t ← innerPart e
    let ts ← innerParts es
    pure (t :: ts)

end

/-- Nothing for a number of too many digits, or an interpolated value that needs a backslash. -/
def Expr.render (e : Expr) : Option String := (renderAt .plain .test e).map String.ofList

end TypedTemplate.ClassSource
