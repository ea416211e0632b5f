import TypedTemplate.Command.Arguments
import TypedTemplate.Console.Print
import TypedTemplate.FileTree.Search
import TypedTemplate.Settings.Load
import TypedTemplate.Usage.Analysis

/-! What can go wrong while a command runs. -/
namespace TypedTemplate.Command

inductive FileError where
  | alreadyThere (path : Path)
  | notDirectory (path : Path)
  | isDirectory (path : Path)

def FileError.message : FileError → String
  | alreadyThere path => "[Errno 17] File exists: " ++ Text.quoted path.render
  | notDirectory path => "[Errno 20] Not a directory: " ++ Text.quoted path.render
  | isDirectory path => "[Errno 21] Is a directory: " ++ Text.quoted path.render

inductive Failure where
  | usage (e : UsageError)
  | load (e : Settings.LoadError)
  | misuse (m : Settings.Misuse)
  | pattern (e : PatternError)
  | markup (e : Console.MarkupError)
  | file (e : FileError)
  | encoding (e : Text.Utf8.Error)
  | interruption (i : Analysis.Interruption)
  /-- A path that is to be shown from a root is not below it. -/
  | outside (path root : Path)

/-- A root without segments has an empty name here. -/
def outsideMessage (path root : Path) : String :=
  let name := if root = .here then "" else root.render
  Text.quoted path.render ++ " is not in the subpath of " ++ Text.quoted name ++
    " OR one path is relative and the other is absolute."

def Failure.message : Failure → String
  | usage e => e.cause.message
  | load e => e.message
  | misuse m => m.message
  | pattern e => e.message
  | markup e => e.message
  | file e => e.message
  | encoding e => e.message
  | interruption i => i.message
  | outside path root => outsideMessage path root

/-- How a command ends. -/
inductive Stop where
  | exit (code : Nat)
  /-- The input ended where an answer was due. -/
  | abort
  | failure (f : Failure)

end TypedTemplate.Command
