import TypedTemplate.Command.Session
import TypedTemplate.Settings.Places

/-! What commands find through the settings: the settings file, the template engine and the
templates. -/
namespace TypedTemplate.Command
open Session

def rootDir (root : String) : Session Path := do pure (.top ((← tree).resolve (.ofText root)))

def settingsFile? (t : FileTree) (dir : Path) : Option Path :=
  let file := dir.child Settings.fileName
  if t.has file then some file else (Settings.find t dir).toOption

def missingSettings {α : Type} (dir : Path) (advice : String) : Session α := do
  say ("[red]Error:[/red] No " ++ Settings.fileName ++ " found in " ++ dir.render ++
    " or parent directory.\n" ++
    "[blue]Hint:[/blue] Run 'typja init' to create a configuration file" ++ advice ++ ".")
  exit 1

def loadSettings (file : Path) : Session Settings := do lift .load (Settings.loadFile (← tree) file)

def importError (modules : Modules) (name : String) : String :=
  let top := String.ofList (name.toList.takeWhile (· != '.'))
  if Text.startsWith name.toList ['.'] then
    "the 'package' argument is required to perform a relative import for " ++ Text.quoted name
  else if modules.has top && name != top then
    "No module named " ++ Text.quoted name ++ "; " ++ Text.quoted top ++ " is not a package"
  else "No module named " ++ Text.quoted top

def badEngine {α : Type} (message : String) : Session α := do
  say ("[red]Error:[/red] " ++ message)
  exit 1

def badEngineFormat {α : Type} : Session α :=
  badEngine "Invalid jinja_env format in typja.toml. Use 'module.path:attribute'."

/-- The engine that a module holds under a name. -/
def importEngine (module attr : String) : Session Template.Engine := do
  let modules := (← get).modules
  match modules.find? module with
  | none =>
    badEngine ("Failed to import jinja environment in '" ++ module ++
      "' specified in typja.toml: " ++ importError modules module)
  | some objects =>
    match objects.find? attr with
    | none =>
      badEngine ("For jinja environment specified in typja.toml, '" ++ module ++
        "' has no attribute '" ++ attr ++ "'.")
    | some none => badEngine "jinja_env must be a Jinja2 Environment instance."
    | some (some engine) => pure engine

def engineNamed (name : String) : Session Template.Engine :=
  match Text.cut? [':'] name.toList with
  | none => badEngineFormat
  | some (module, attr) =>
    let module := Text.trim module
    let attr := Text.trim attr
    if module.isEmpty || attr.isEmpty then badEngineFormat
    else importEngine (String.ofList module) (String.ofList attr)

def holdsColon (vs : List Toml.Value) : Bool :=
  vs.any fun v =>
    match v with
    | .text s => s == ":"
    | _ => false

/-- The engine that the settings name, if they name one. -/
def engine (s : Settings) : Session (Option Template.Engine) :=
  let v := s.environment.engine
  if !Settings.holds v then pure none
  else
    match v with
    | .text name => some <$> engineNamed name
    | _ =>
      match Settings.itemsOf v with
      | .ok items => if holdsColon items then fail (.misuse (.member v "split"))
        else badEngineFormat
      | .error _ => fail (.misuse (.container v))

/-- The templates in a directory. Exclusions are only looked at when there is something to
exclude. -/
def templatesIn (t : FileTree) (s : Settings) (dir : Path) : Except Failure (List Path) := do
  let include_ ← (Settings.textsOf (.member · "lstrip") s.environment.includePatterns).mapError
    .misuse
  let found ← (t.templates dir include_ []).mapError .pattern
  if found.isEmpty then pure []
  else
    let exclude ← (Settings.textsOf (.member · "startswith") s.environment.excludePatterns).mapError
      .misuse
    (t.templates dir include_ exclude).mapError .pattern

def templatesOf (t : FileTree) (s : Settings) (dirs : List Path) : Except Failure (List Path) := do
  pure (← (dirs.filter t.has).mapM (templatesIn t s)).flatten

end TypedTemplate.Command
