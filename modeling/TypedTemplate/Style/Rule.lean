import TypedTemplate.Directive.Basic
import TypedTemplate.Issue
import TypedTemplate.Style.Union
import TypedTemplate.Table
import TypedTemplate.Text.Lines
import TypedTemplate.Text.Word

/-! The style rules and what each of them asks. -/
namespace TypedTemplate.Style

inductive Rule where
  | barUnions
  | unusedImports
  | duplicates
  | sortedImports
  | redundantNone
deriving DecidableEq

namespace Rule

def all : List Rule := [barUnions, unusedImports, duplicates, sortedImports, redundantNone]

def name : Rule → String
  | barUnions => "prefer-pep604-union"
  | unusedImports => "no-unused-imports"
  | duplicates => "no-duplicate-declarations"
  | sortedImports => "sorted-imports"
  | redundantNone => "no-redundant-none"

/-- The message of a rule about a subject. -/
def message (r : Rule) (subject : String) : String :=
  match r with
  | barUnions => "Use PEP 604 union syntax (X | Y) instead of " ++ subject
  | unusedImports => "Import '" ++ subject ++ "' is unused"
  | duplicates => "Duplicate declaration of '" ++ subject ++ "'"
  | sortedImports => "Imports should be sorted alphabetically"
  | redundantNone => "Redundant None in union type"

def template (r : Rule) : String :=
  r.message (if r = barUnions then "\x7bold_style\x7d" else "\x7bname\x7d")

def severity : Rule → Severity
  | duplicates => .error
  | _ => .warning

def repairs : Rule → Bool
  | barUnions => true
  | _ => false

end Rule

def atBoundary (before after : Option Char) : Bool :=
  before.any Text.isWord != after.any Text.isWord

/-- Whether a word stands somewhere in a text, by itself, with what is asked of the text behind
it. -/
def wordAt (word : List Char) (behind : Option Char → List Char → Bool) :
    (before : Option Char) → List Char → Bool
  | before, [] => atHere before []
  | before, c :: s => atHere before (c :: s) || wordAt word behind (some c) s
where
  atHere (before : Option Char) (s : List Char) : Bool :=
    match Text.after? word s with
    | some rest => atBoundary before s.head? && behind (word.getLast?.or before) rest
    | none => false

def hasWord (word s : List Char) : Bool :=
  wordAt word (fun last rest => atBoundary last rest.head?) none s

/-- Whether a text has a word with a point and a further word behind it. -/
def hasMember (word s : List Char) : Bool :=
  wordAt word
    (fun _ rest =>
      match rest with
      | '.' :: c :: _ => Text.isWord c
      | _ => false) none s

def isImportLine (line : List Char) : Bool :=
  Text.occurs "typja:import".toList line || Text.occurs "typja:from".toList line

def isUsed (name : String) (content : List Char) : Bool :=
  (Text.lines content).any fun line => !isImportLine line && hasWord name.toList line

def hasRedundantNone (t : TypeExpr) : Bool :=
  (t.members.filter fun m => m.name == "None").length > 1

def inOrder {α : Type} (key : α → String) (as : List α) : List α :=
  as.mergeSort fun a b => !decide (key b < key a)

namespace Rule

def Subject : Rule → Type
  | barUnions => TypeExpr
  | unusedImports => String × List Char
  | duplicates => Table (List Int)
  | sortedImports => List String
  | redundantNone => List Char

/-- Whether a subject is as the rule wants it: a type is no old union, an imported name is used in a
text, no key has two lines, keys are in order, and a written union names the absent value at most
once. -/
def accepts : (r : Rule) → r.Subject → Bool
  | barUnions, (t : TypeExpr) =>
    !((t.name == "Union" || t.name == "Optional") && t.module == some "typing")
  | unusedImports, (name, content) => isUsed name content
  | duplicates, (groups : Table (List Int)) => groups.all fun g => g.2.length ≤ 1
  | sortedImports, (keys : List String) => keys.length ≤ 1 || keys == inOrder id keys
  | redundantNone, (s : List Char) => ((Text.pieces ['|'] s).map Text.trim).count "None".toList ≤ 1

end Rule

end TypedTemplate.Style
