import TypedTemplate.Command.Check

/-! Checking a project whenever one of its files changes. -/
namespace TypedTemplate.Command
open Session

abbrev Times := List (Path × Int)

namespace Times

def set (ts : Times) (p : Path) (time : Int) : Times := (p, time) :: ts.filter fun e => e.1 != p

def forget (ts : Times) (p : Path) : Times := ts.filter fun e => e.1 != p

def note (t : FileTree) (ts : Times) (p : Path) : Times × Bool :=
  match t.time? p with
  | none => (ts.forget p, false)
  | some time =>
    match ts.lookup p with
    | none => (ts.set p time, true)
    | some before => if time > before then (ts.set p time, true) else (ts, false)

def observe (t : FileTree) : Times → List Path → Times × List Path
  | ts, [] => (ts, [])
  | ts, p :: ps =>
    let (ts, changed) := note t ts p
    let (ts, rest) := observe t ts ps
    (ts, if changed then p :: rest else rest)

def start (t : FileTree) (files : List Path) : Times :=
  files.foldl (fun ts p => (t.time? p).elim ts (ts.set p)) []

end Times

structure Watch where
  root : Path
  file : Path
  settings : Settings
  templateDirs : List Path
  typePaths : List Path

namespace Watch

/-- The source files that a path stands for. Exclusions are only looked at when there is something
to exclude. -/
def sourcesAt (w : Watch) (t : FileTree) (p : Path) : Except Failure (List Path) :=
  if t.isFile p && ClassIndex.isSourceFile p then .ok [p]
  else if t.isDir p then do
    let found := (t.select ["**", "*.py"] p).filter fun f => !f.parts.contains "__pycache__"
    if found.isEmpty then pure []
    else
      let exclude ← (Settings.textsOf .subscript w.settings.environment.excludePatterns).mapError
        .misuse
      (found.filterM fun (f : Path) =>
        do pure !(← exclude.anyM fun pattern => f.fits pattern)).mapError .pattern
  else .ok []

def files (w : Watch) (t : FileTree) : Except Failure (List Path) := do
  let templates ← templatesOf t w.settings w.templateDirs
  let sources ← w.typePaths.mapM (w.sourcesAt t)
  pure (templates ++ sources.flatten ++ if t.has w.file then [w.file] else [])

def runCheck (w : Watch) (failed : String → String) (broken : String → String) : Session Unit :=
  tryCatch (check ⟨w.root.render, false, false⟩) fun stop =>
    match stop with
    | .exit 0 => pure ()
    | .exit code => say (failed (toString code))
    | .failure f => say (broken f.message)
    | .abort => throw .abort

def sayWaiting : Session Unit := say "\n[green]✓ Watching for changes...[/green]\n"

def findSettings (dir : Path) : Session Path := do
  let t ← tree
  match settingsFile? t dir with
  | none => missingSettings dir ""
  | some file =>
    if t.has (dir.child Settings.fileName) then pure ()
    else say ("[blue]Found config:[/blue] " ++ file.render ++ "\n")
    pure file

/-- Checks the project for the first time and takes note of its files. -/
def start (root : String) : Session (Watch × Times) := do
  let dir ← rootDir root
  let file ← findSettings dir
  let s ← loadSettings file
  let w : Watch :=
    ⟨dir, file, s, ← lift .misuse s.templateDirs, ← lift .misuse (s.typePaths (← tree))⟩
  say "[blue]Starting watch mode...[/blue]"
  say "[dim]Press Ctrl+C to stop[/dim]\n"
  say "[blue]Running initial check...[/blue]\n"
  w.runCheck
    (fun code => "\n[yellow]Warning:[/yellow] Initial check failed with exit code: " ++ code ++
      "\n")
    (fun message => "\n[yellow]Warning:[/yellow] Initial check failed: " ++ message ++ "\n")
  let t ← tree
  let files ← lift id (w.files t)
  sayWaiting
  pure (w, .start t files)

/-- A look at the files; where some have changed, they are listed and the project is checked
again. -/
def look (w : Watch) (ts : Times) : Session Times := do
  let t ← tree
  let (ts, changed) := ts.observe t (← lift id (w.files t))
  if changed.isEmpty then pure ts
  else
    say ("[yellow]Detected changes in " ++ toString changed.length ++ " file(s)[/yellow]")
    changed.forM fun p => say ("  • " ++ ((p.relativeTo? w.root).getD p).render)
    say ""
    w.runCheck (fun code => "[red]Check failed with exit code:[/red] " ++ code)
      (fun message => "[red]Check failed:[/red] " ++ message)
    sayWaiting
    pure ts

def finish : Session Unit := do
  say "\n[blue]Stopped watching.[/blue]"
  exit 0

def follow (w : Watch) : Times → List FileTree → Session Unit
  | _, [] => pure ()
  | ts, t :: rest => do
    modify fun world => { world with tree := t }
    let ts ← w.look ts
    follow w ts rest

/-- What ends a watch is shown as an error, be it only the code of an exit. -/
def guarded {α : Type} (body : Session α) : Session α :=
  let give (message : String) : Session α := do
    say ("[red]Error:[/red] " ++ message)
    exit 1
  tryCatch body fun stop =>
    match stop with
    | .exit code => give (toString code)
    | .failure f => give f.message
    | .abort => throw .abort

end Watch

def watch (root : String) (snapshots : List FileTree) : Session Unit := do
  Watch.guarded do
    let (w, ts) ← Watch.start root
    w.follow ts snapshots
  Watch.finish

end TypedTemplate.Command
