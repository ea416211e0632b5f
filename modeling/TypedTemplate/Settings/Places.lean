import TypedTemplate.FileTree.Wildcard
import TypedTemplate.Settings.Basic

/-! Where the settings say that templates and types are. -/
namespace TypedTemplate.Settings

def rootPath (s : Settings) : Except Misuse Path := pathOf s.project.root

def templateDirs (s : Settings) : Except Misuse (List Path) := do
  (← itemsOf s.environment.templateDirs).mapM fun v => do
    let root ← s.rootPath
    let dir ← segmentOf v
    pure (root.join (.ofText dir))

def isPattern (p : String) : Bool :=
  p.toList.any fun c => c == '*' || c == '?' || c == '[' || c == ']'

def placesOf (t : FileTree) (root : Path) (p : String) : List Path :=
  let path := root.join (.ofText p)
  if isPattern p then t.expand path else if t.has path then [path] else []

/-- The paths below which classes are defined. A path may come more than once. -/
def typePaths (s : Settings) (t : FileTree) : Except Misuse (List Path) := do
  let found ← (← itemsOf s.project.paths).mapM fun v => do
    let root ← s.rootPath
    let p ← segmentOf v
    pure (placesOf t root p)
  pure found.flatten

end TypedTemplate.Settings
