import TypedTemplate.FileTree.Basic
import TypedTemplate.Settings.Basic
import TypedTemplate.Text.Quoted
import TypedTemplate.Toml.Parse

/-! Finding and reading the settings file of a project. -/
namespace TypedTemplate.Settings

def fileName : String := "typja.toml"

/-- Why a file that is there gives no settings document. -/
inductive ReadFailure where
  | directory
  | encoding (e : Text.Utf8.Error)
  | document (e : Toml.Error)

def ReadFailure.message (path : Path) : ReadFailure → String
  | directory => "[Errno 21] Is a directory: " ++ Text.quoted path.render
  | encoding e => e.message
  | document e => e.message

inductive LoadError where
  | missing (path : Path)
  | unreadable (path : Path) (cause : ReadFailure)
  | notFound (start : Path)
  | misuse (m : Misuse)

def LoadError.message : LoadError → String
  | missing path => "Configuration file not found: " ++ path.render
  | unreadable path cause => "Failed to parse " ++ path.render ++ ": " ++ cause.message path
  | notFound start => fileName ++ " not found in " ++ start.render ++
      " or any parent directory.\n\nHint: Run 'typja init' to create a configuration file."
  | misuse m => m.message

def upward (at_ : List String) : List (List String) :=
  (List.range (at_.length + 1)).reverse.map fun k => at_.take k

def find (t : FileTree) (start : Path) : Except LoadError Path :=
  let candidates := (upward (t.resolve start)).map fun dir => (Path.top dir).child fileName
  match candidates.find? t.has with
  | some p => .ok p
  | none => .error (.notFound start)

def readDocument (t : FileTree) (path : Path) : Except ReadFailure (Table Toml.Value) :=
  match t.content? path with
  | none => .error .directory
  | some bytes =>
    match Text.Utf8.decode bytes with
    | .error e => .error (.encoding e)
    | .ok text =>
      match Toml.parse text with
      | .error e => .error (.document e)
      | .ok document => .ok document

def loadFile (t : FileTree) (path : Path) : Except LoadError Settings :=
  if !t.has path then .error (.missing path)
  else
    match readDocument t path with
    | .error cause => .error (.unreadable path cause)
    | .ok document =>
      match read document with
      | .error m => .error (.misuse m)
      | .ok s => .ok s

/-- The settings in the given file, or in the one found from the current directory. -/
def load (t : FileTree) (path : Option Path) : Except LoadError Settings := do
  let path ←
    match path with
    | some p => pure p
    | none => find t (.top t.here)
  loadFile t path

end TypedTemplate.Settings
