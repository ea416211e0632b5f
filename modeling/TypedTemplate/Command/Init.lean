import TypedTemplate.Command.Locate
import TypedTemplate.Settings.Starter

/-! Making a settings file for a project. -/
namespace TypedTemplate.Command
open Session

def starterFor (root : String) : String :=
  if root == "." then Settings.starter
  else
    String.ofList (Text.replace "root = \".\"".toList ("root = \"" ++ root ++ "\"").toList
      Settings.starter.toList)

def outdated? (t : FileTree) (dir target : Path) : Except Failure (Option Path) :=
  let here := Path.here.child Settings.fileName
  if t.has here && t.resolve here != t.resolve target then
    match Settings.loadFile t here with
    | .error (.misuse m) => .error (.misuse m)
    | .error _ => .ok none
    | .ok s => do
      let root ← s.rootPath.mapError .misuse
      pure (if t.resolve root = t.resolve dir then some here else none)
  else .ok none

def ask (question : String) : Session (List Char) := do
  let q ← lift .markup (Console.plain question.toList)
  let w ← get
  let lines := Console.wrap w.columns (q ++ " [y/n]: ".toList)
  write ([.bare ['\n']].intercalate
    (Console.painted (w.terminal.painter? none) (.line question) lines))
  match ← readLine with
  | some line => pure (Text.lowered (Text.trim line))
  | none => throw .abort

/-- Asks until the answer is yes or no. Every question takes a line of the input, so its length is
enough fuel. -/
def confirmFrom (question : String) : Nat → Session Bool
  | 0 => throw .abort
  | n + 1 => do
    let answer ← ask question
    if answer == ['y'] then pure true
    else if answer == ['n'] then pure false
    else
      say "[prompt.invalid]Please enter Y or N"
      confirmFrom question n

def confirm (question : String) : Session Bool := do confirmFrom question ((← get).input.length + 1)

def makeDirectory (place : List String) : Session Unit := do
  let w ← get
  match w.tree.node? place with
  | some (.dir _) => pure ()
  | some _ => fail (.file (.alreadyThere (.top place)))
  | none =>
    let blocked := (FileTree.ancestors place).any fun a =>
      match w.tree.node? a with
      | some (.file _ _) => true
      | _ => false
    if blocked then fail (.file (.notDirectory (.top place)))
    else set { w with tree := w.tree.makeDirs place }

def removeFile (path : Path) : Session Unit := do
  let w ← get
  if w.tree.has path then
    set { w with tree := w.tree.erase (w.tree.resolve path.parent ++ [path.name]) }
    say ("[yellow]✓[/yellow] Removed old config from " ++ path.render)

def createSettings (root : String) (dir target : Path) (old : Option Path) : Session Unit := do
  makeDirectory dir.segments
  writeFile target (starterFor root)
  say ("[green]✓[/green] Created " ++ target.render)
  match old with
  | some path => removeFile path
  | none => pure ()

/-- Makes the settings file in the root, after a question where there is one already. -/
def init (o : InitOptions) : Session Unit := do
  let dir ← rootDir o.root
  let target := dir.child Settings.fileName
  let old ← lift id (outdated? (← tree) dir target)
  let overwrite ←
    if (← tree).has target && !o.force then
      confirm ("[yellow]" ++ target.render ++ " already exists. Overwrite?[/yellow]")
    else pure true
  if overwrite then
    attempt (createSettings o.root dir target old) fun f => do
      say ("[red]Error creating configuration:[/red] " ++ f.message)
      exit 1
  else
    say "[blue]Initialization cancelled.[/blue]"

end TypedTemplate.Command
