import TypedTemplate.Directive.Comment
import TypedTemplate.Settings.Basic
import TypedTemplate.Style.Rule

/-! Findings of the style rules in a template. -/
namespace TypedTemplate.Style
open Settings (Misuse entry holds kind yes)

structure Settings where
  barUnions : Bool
  unionSeverity : Severity
  unusedImports : Bool
  sortedImports : Bool

def Settings.standard : Settings := ⟨true, .warning, true, true⟩

/-- A severity as it is set. Of a value that is no word, number or switch only the kind is kept. -/
def severityOf : Toml.Value → Severity
  | .text s => .ofText s
  | .truth b => .truth b
  | .whole n => .number n
  | .none => .unset
  | v => .other (kind v)

/-- The switches that a configuration holds under the name of linting. What it does not hold is
on. -/
def Settings.ofConfig (config : Table Toml.Value) : Except Misuse Settings := do
  let rules := (config.find? "linting").getD (.table [])
  let switch (key : String) : Except Misuse Bool := do pure (holds (← entry rules key yes))
  pure {
    barUnions := ← switch "prefer_pep604_unions"
    unionSeverity := severityOf (← entry rules "union_style" (.text "warning"))
    unusedImports := ← switch "warn_unused_imports"
    sortedImports := ← switch "sort_imports" }

def finding (severity : Severity) (filename : String) (line : Int) (message hint : String) :
    Issue :=
  ⟨severity, message, filename, line, 0, none, some hint⟩

def numbered (content : List Char) : List (Int × List Char) :=
  (Text.lines content).zipIdx.map fun (l, n) => ((n : Int) + 1, l)

def oldUnions (severity : Severity) (filename : String) (content : List Char) : List Issue :=
  (numbered content).filterMap fun (n, line) =>
    (oldUnion? line).map fun old =>
      finding severity filename n (Rule.barUnions.message (String.ofList old))
        ("Use: " ++ String.ofList (withBars old))

def unusedIn (filename : String) (content : List Char) (c : Comment) : List Issue :=
  let at_ := finding Rule.unusedImports.severity filename c.position.line
  match c.directive with
  | .importModule m =>
    if hasMember m.toList content then []
    else [at_ (Rule.unusedImports.message m)
      ("Remove unused import or use types from '" ++ m ++ "'")]
  | .importFrom m names =>
    (names.filter fun n => !isUsed n.bound content).map fun n =>
      at_ ("Import '" ++ n.name ++ "' from '" ++ m ++ "' is unused")
        ("Remove unused import '" ++ n.name ++ "'")
  | _ => []

/-- What a declaration names. -/
inductive Kind where
  | variable_
  | filter
  | macro_
deriving DecidableEq

structure Declared where
  kind : Kind
  name : String
  line : Int
deriving DecidableEq

def declared (c : Comment) : List Declared :=
  match c.directive with
  | .varTypes ds => ds.map fun d => ⟨.variable_, d.name, c.position.line⟩
  | .filter d => [⟨.filter, d.name, c.position.line⟩]
  | .macroSignature d => [⟨.macro_, d.name, c.position.line⟩]
  | _ => []

def Kind.word : Kind → String
  | variable_ => "VariableDeclaration"
  | filter => "FilterDeclaration"
  | macro_ => "MacroDeclaration"

def Declared.key (d : Declared) : String := d.kind.word ++ ":" ++ d.name

def grouped (ds : List Declared) : Table (List Int) := Table.groups Declared.key Declared.line ds

def keyName (key : String) : String :=
  ((Text.cut? [':'] key.toList).map fun p => String.ofList p.2).getD ""

def repeated (filename : String) (g : String × List Int) : List Issue :=
  let name := keyName g.1
  match g.2 with
  | [] => []
  | first :: later =>
    later.map fun l =>
      finding Rule.duplicates.severity filename l (Rule.duplicates.message name)
        ("'" ++ name ++ "' was already declared at line " ++ toString first)

def duplicates (filename : String) (cs : List Comment) : List Issue :=
  (grouped (cs.flatMap declared)).flatMap (repeated filename)

/-- An import with its line, the key that it is sorted by, and its text. -/
structure ImportLine where
  line : Int
  key : String
  body : String
deriving DecidableEq

/-- The finding about a block of imports. A block is in order if sorting it changes nothing. -/
def unsortedBlock (filename : String) (block : List ImportLine) : List Issue :=
  match block with
  | first :: _ :: _ =>
    if block = inOrder ImportLine.key block then []
    else [finding Rule.sortedImports.severity filename first.line (Rule.sortedImports.message "")
      "Group imports by type (import first, then from) and sort alphabetically"]
  | _ => []

/-- The way through the imports: what was found so far, the block that has begun, and the line of
the last import, `-1` before the first. -/
structure ImportScan where
  found : List Issue
  block : List ImportLine
  last : Int

namespace ImportScan

def start : ImportScan := ⟨[], [], -1⟩

def close (filename : String) (k : ImportScan) : ImportScan :=
  if k.block.isEmpty then k else ⟨k.found ++ unsortedBlock filename k.block, [], k.last⟩

def add (filename : String) (k : ImportScan) (i : ImportLine) : ImportScan :=
  let k := if k.last ≠ -1 ∧ i.line - k.last > 2 then k.close filename else k
  ⟨k.found, k.block ++ [i], i.line⟩

def step (filename : String) (k : ImportScan) (c : Comment) : ImportScan :=
  match c.directive with
  | .importModule m => k.add filename ⟨c.position.line, "0:" ++ m, "import " ++ m⟩
  | .importFrom m names =>
    k.add filename ⟨c.position.line, "1:" ++ m,
      "from " ++ m ++ " import " ++ Text.joinWith ", " (names.map ImportedName.render)⟩
  | _ => k

end ImportScan

def unsorted (filename : String) (cs : List Comment) : List Issue :=
  ((cs.foldl (ImportScan.step filename) .start).close filename).found

def declaredTypes (c : Comment) : List TypeExpr :=
  match c.directive with
  | .varTypes ds => ds.map (·.type)
  | .filter d => [d.type]
  | .macroSignature d => d.params.map (·.type) ++ [d.result]
  | _ => []

def redundant (filename : String) (c : Comment) : List Issue :=
  ((declaredTypes c).filter hasRedundantNone).map fun _ =>
    finding Rule.redundantNone.severity filename c.position.line (Rule.redundantNone.message "")
      "Remove duplicate None types"

/-- The findings of one rule, given the comments of the template. -/
def apply (s : Settings) (filename : String) (content : List Char) (cs : List Comment) :
    Rule → List Issue
  | .barUnions => if s.barUnions then oldUnions s.unionSeverity filename content else []
  | .unusedImports => if s.unusedImports then cs.flatMap (unusedIn filename content) else []
  | .duplicates => duplicates filename cs
  | .sortedImports => if s.sortedImports then unsorted filename cs else []
  | .redundantNone => cs.flatMap (redundant filename)

def lint (s : Settings) (filename content : String) : List Issue :=
  let cs := (Comment.parseAll filename content).toOption.getD []
  Rule.all.flatMap (apply s filename content.toList cs)

def lintTemplate (config : Table Toml.Value) (filename content : String) :
    Except Misuse (List Issue) := do
  pure (lint (← Settings.ofConfig config) filename content)

end TypedTemplate.Style
