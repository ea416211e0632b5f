import TypedTemplate.ClassIndex.Collect
import TypedTemplate.ClassIndex.Register
import TypedTemplate.Command.Locate
import TypedTemplate.Report
import TypedTemplate.Style.Repair

/-! Checking all templates of a project. -/
namespace TypedTemplate.Command
open Session

structure Setting where
  order : SetOrder
  index : ClassIndex
  fix : Bool

/-- What one template leaves to the next: the engine that is named, if any, and the registry. -/
structure Shared where
  engine : Option Template.Engine
  registry : Registry

structure Finding where
  issues : List Issue
  repaired : Option String

def lintConfig (l : Settings.Linting) : Table Toml.Value := [
  ("prefer_pep604_unions", l.preferBarUnions),
  ("union_style", l.unionStyle),
  ("warn_unused_imports", l.warnUnusedImports),
  ("fix_union_syntax", l.fixUnions)]

def repaired? (content : String) (issues style : List Issue) : Option String :=
  if issues.isEmpty then none
  else
    let fixed := Style.repair content (issues ++ style)
    if fixed = content then none else some fixed

/-- Reads and checks a template. What it leaves behind is left even where it cannot be checked to
its end. -/
def examine (c : Setting) (l : Settings.Linting) (t : FileTree) (h : Shared) (path : Path) :
    Shared × Except Failure Finding :=
  match FileTree.readText ((t.content? path).getD []) with
  | .error e => (h, .error (.encoding e))
  | .ok content =>
    let new := Analysis.start h.engine c.order (some c.index) false
    let (a, r, stop) := new.template h.registry path.render content
    let h : Shared := ⟨h.engine.map fun _ => a.engine, r⟩
    match stop with
    | some i => (h, .error (.interruption i))
    | none =>
      match Style.lintTemplate (lintConfig l) path.render content with
      | .error m => (h, .error (.misuse m))
      | .ok style =>
        let issues := a.issues ++ style
        (h, .ok ⟨issues, if c.fix then repaired? content issues style else none⟩)

def seenFrom (root path : Path) : Session Path :=
  match path.relativeTo? root with
  | some p => pure p
  | none => fail (.outside path root)

def applyFinding (root path : Path) (f : Finding) : Session (List Issue) := do
  match f.repaired with
  | some text =>
    writeFile path text
    say ("[green]✓[/green] Fixed " ++ (← seenFrom root path).render)
  | none => pure ()
  pure f.issues

/-- The issues of a template. A failure is shown and gives none. -/
def checkTemplate (root path : Path) (r : Except Failure Finding) : Session (List Issue) :=
  attempt
    (do
      let f ← lift id r
      applyFinding root path f)
    fun f => do
      say ("[red]Error analyzing " ++ path.render ++ ":[/red] " ++ f.message)
      pure []

def checkTemplates (c : Setting) (l : Settings.Linting) (root : Path) :
    Shared → List Path → Session (List Issue)
  | _, [] => pure []
  | h, path :: paths => do
    let (h, found) := examine c l (← tree) h path
    let issues ← checkTemplate root path found
    let more ← checkTemplates c l root h paths
    pure (issues ++ more)

def classExclusions (t : FileTree) (s : Settings) (paths : List Path) :
    Except Settings.Misuse (List String) :=
  let v := s.environment.excludePatterns
  let inDirs := paths.any fun p => t.isDir p && !(t.select ["**", "*.py"] p).isEmpty
  if Settings.holds v && inDirs then Settings.textsOf (.member · "lstrip") v else .ok []

def collectClasses (s : Settings) (root : Path) (paths : List Path) :
    Session (ClassIndex × Registry) := do
  if paths.isEmpty then pure (.empty, .empty)
  else
    say ("[blue]Resolving types from " ++ toString paths.length ++ " path(s)...[/blue]")
    let t ← tree
    let exclude ← lift .misuse (classExclusions t s paths)
    let (x, r) := (ClassIndex.collect t root exclude paths .empty).register .empty
    say ("[green]✓[/green] Found " ++ toString x.entries.length ++ " type(s)\n")
    pure (x, r)

def countOf (severity : Severity) (issues : List Issue) : Nat :=
  issues.countP (·.severity == severity)

def exitCode (failOnWarning : Bool) (issues : List Issue) : Nat :=
  if countOf .error issues > 0 || (failOnWarning && countOf .warning issues > 0) then 1 else 0

def conclude (s : Settings) (strict : Bool) (files : Nat) (issues : List Issue) : Session Unit := do
  let forced := Report.forced? s.errors
  printWith forced (Report.issues s.errors (← tree) issues)
  printWith forced
    (Report.summary ⟨files, issues.length, countOf .error issues, countOf .warning issues⟩)
  exit (exitCode (strict || Settings.holds s.project.failOnWarning) issues)

def checkWith (o : CheckOptions) (s : Settings) : Session Unit := do
  let root ← lift .misuse s.rootPath
  let named ← engine s
  let order := (← get).order
  let paths ← lift .misuse (s.typePaths (← tree))
  let (index, r) ← collectClasses s root paths
  let dirs ← lift .misuse s.templateDirs
  let templates ← lift id (templatesOf (← tree) s dirs)
  if templates.isEmpty then
    say "[yellow]No templates found to check.[/yellow]"
    exit 0
  else
    say ("[blue]Checking " ++ toString templates.length ++ " template(s)...[/blue]\n")
    let issues ← checkTemplates ⟨order, index, o.fix⟩ s.linting root ⟨named, r⟩ templates
    conclude s o.strict templates.length issues

/-- Checks the project that a root belongs to. Every failure is shown and ends the check. -/
def check (o : CheckOptions) : Session Unit :=
  attempt
    (do
      let dir ← rootDir o.root
      match settingsFile? (← tree) dir with
      | none => missingSettings dir " or specify the project root with --root"
      | some file =>
        let s ← loadSettings file
        checkWith o s)
    fun f => do
      say ("[red]Error checking templates:[/red] " ++ f.message)
      exit 1

end TypedTemplate.Command
