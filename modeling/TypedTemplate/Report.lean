import TypedTemplate.Console.Print
import TypedTemplate.FileTree.Basic
import TypedTemplate.Issue
import TypedTemplate.Settings.Basic

/-! Reports of issues, file by file. -/
namespace TypedTemplate.Report
open Console (Part)

/-- Whether the settings force colours or forbid them. -/
def forced? (s : Settings.Errors) : Option Bool :=
  match s.color with
  | .text "always" => some true
  | .text "never" => some false
  | _ => none

def styleOf : Severity → String
  | .error => "error"
  | .warning => "warning"
  | _ => "info"

def iconOf : Severity → String
  | .error => "✗"
  | .warning => "⚠"
  | _ => "ℹ"

def styled (style text : String) : String := "[" ++ style ++ "]" ++ text ++ "[/" ++ style ++ "]"

def location (i : Issue) : String :=
  styled "line_number" ("  " ++ toString i.line ++ if i.col = 0 then "" else ":" ++ toString i.col)

def shortLine (i : Issue) : String :=
  location i ++ " " ++ styled (styleOf i.severity) (iconOf i.severity) ++ " " ++ i.message

def fullLine (i : Issue) : String :=
  location i ++ " " ++ styled (styleOf i.severity)
    (iconOf i.severity ++ " " ++ i.severity.text ++ ":") ++ " " ++ i.message

def indent : Nat := 4

def squiggles (col endCol : Int) : String :=
  "".pushn ' ' ((indent : Int) + col).toNat ++ styled "error"
    ("".pushn '~' (max 1 (endCol - col)).toNat)

def sourceLine? (t : FileTree) (i : Issue) : Option String := do
  let content ← t.content? (.ofText i.filename)
  let text ← (FileTree.readText content).toOption
  if i.line ≤ 0 then none else (Text.lines text.toList)[i.line.toNat - 1]?.map String.ofList

def excerpt (t : FileTree) (i : Issue) (marks : List String) : List Part :=
  match sourceLine? t i with
  | some line => [.excerpt (("".pushn ' ' indent ++ line) :: marks)]
  | none => []

def looseMarks (i : Issue) : List String := i.endCol.toList.map fun e => squiggles i.col e ++ "\n"

def tightMarks (i : Issue) : List String :=
  if i.col = 0 then [] else (i.endCol.toList.filter (· != 0)).map (squiggles i.col)

def hintLine (s : Settings.Errors) (lead : String) (i : Issue) : List Part :=
  match i.hint with
  | some h =>
    if Settings.holds s.showHints && !h.isEmpty
      then [.line ("    " ++ styled "hint" ("💡 " ++ lead ++ h))] else []
  | none => []

/-- How an issue is shown. A verbosity that is not known shows nothing. -/
def issueParts (s : Settings.Errors) (t : FileTree) (i : Issue) : List Part :=
  match s.verbosity with
  | .text "minimal" => [.line (shortLine i)]
  | .text "normal" => .line (fullLine i) :: (excerpt t i (looseMarks i) ++ hintLine s "" i)
  | .text "verbose" =>
    let snippet := if Settings.holds s.showSnippets then excerpt t i (tightMarks i) else []
    .line (fullLine i) :: (snippet ++ hintLine s "Hint: " i ++ [.line ""])
  | _ => []

def byFile (issues : List Issue) : Table (List Issue) := Table.groups Issue.filename id issues

def fileNames (issues : List Issue) : List String :=
  (byFile issues).keys.mergeSort fun a b => !decide (b < a)

def ofFile (issues : List Issue) (name : String) : List Issue :=
  (((byFile issues).find? name).getD []).mergeSort fun a b => decide (a.line ≤ b.line)

def fileParts (s : Settings.Errors) (t : FileTree) (issues : List Issue) (name : String) :
    List Part :=
  .line "" :: .line (styled "path" name) :: (ofFile issues name).flatMap (issueParts s t)

/-- All issues, file by file. -/
def issues (s : Settings.Errors) (t : FileTree) (issues : List Issue) : List Part :=
  (fileNames issues).flatMap (fileParts s t issues)

def display (terminal : Console.Terminal) (s : Settings.Errors) (limit : Nat) (parts : List Part) :
    Console.Output × Option Console.MarkupError :=
  Console.display (terminal.painter? (forced? s)) limit parts

structure Counts where
  files : Int
  issues : Int
  errors : Int
  warnings : Int

/-- Numbers at the end of a report. -/
def summary (c : Counts) : List Part :=
  if c.issues = 0 then [.line "", .line (styled "success" "✓ No issues found!")]
  else
    let row (style name : String) (n : Int) : List (String × String) :=
      if n > 0 then [(styled style name, styled style (toString n))] else []
    [.line "", .table ((styled "dim" "Files checked:", toString c.files) ::
      (row "error" "Errors:" c.errors ++ row "warning" "Warnings:" c.warnings))]

def success (message : String) : Part := .line (styled "success" ("✓ " ++ message))

def error (message : String) : Part := .line (styled "error" ("✗ " ++ message))

def warning (message : String) : Part := .line (styled "warning" ("⚠ " ++ message))

def info (message : String) : Part := .line (styled "info" ("ℹ " ++ message))

end TypedTemplate.Report
