import TypedTemplate.Command.Help
import TypedTemplate.Command.Init
import TypedTemplate.Command.Watch

/-! Running a command line. -/
namespace TypedTemplate.Command
open Session

def versionText : String := "typja version 0.1.3"

def perform (program : String) (snapshots : List FileTree) : Request → Session Unit
  | .version => say versionText
  | .help verb => write [.bare (helpPage program verb).toList]
  | .check o => check o
  | .init o => init o
  | .watch root => watch root snapshots

def run (program : String) (arguments : List String) (snapshots : List FileTree) (w : World) :
    Stop × World :=
  let session : Session Unit := do
    let r ← lift .usage (parse arguments)
    perform program snapshots r
  match session.run w with
  | (.ok (), w) => (.exit 0, w)
  | (.error stop, w) => (stop, w)

/-- How a program ends for its caller: with a code and something to say about it. Other failures are
left to the caller. -/
def Stop.ending (program : String) : Stop → Except Failure (Nat × String)
  | .exit code => .ok (code, "")
  | .abort => .ok (1, "\nAborted!\n")
  | .failure (.usage e) => .ok (2, e.page program)
  | .failure f => .error f

end TypedTemplate.Command
