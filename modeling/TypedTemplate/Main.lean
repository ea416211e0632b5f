import TypedTemplate.Command.Run

/-! The command line. A command works on a tree of files as a value, so the files are read before it
and written after it. The names of a project's files are expected on the input, one on a line. -/
namespace TypedTemplate.Command

def columns : Nat := 80

def interval : UInt32 := 1000

def bytesOf? (name : String) : IO (Option (List UInt8)) := do
  try
    let bytes ← IO.FS.readBinFile name
    pure (some bytes.toList)
  catch _ => pure none

def currentPlace : IO (List String) := do
  match ← IO.getEnv "PWD" with
  | some s => pure (Path.ofText s).segments
  | none => pure []

/-- The names that stand on the lines of the input. -/
def inputNames : IO (List String) := do
  let input ← IO.getStdin
  let mut bytes := ByteArray.empty
  let mut chunk ← input.read 65536
  while !chunk.isEmpty do
    bytes := bytes ++ chunk
    chunk ← input.read 65536
  let text := ((Text.Utf8.decode bytes.toList).toOption).getD []
  pure (((Text.lines text).map String.ofList).filter (· != ""))

def settingsPlaces (dir : List String) : List (List String) :=
  (Settings.upward dir).map (· ++ [Settings.fileName])

def renewed (known : FileTree) (place : List String) (content : List UInt8) (time : Int) :
    FileNode :=
  match known.node? place with
  | some (.file before t) => .file content (if before == content then t else time)
  | _ => .file content time

def readTree (known : FileTree) (places : List (List String)) (time : Int) : IO FileTree := do
  let empty : FileTree := FileTree.makeDirs ⟨[], known.here⟩ known.here
  places.foldlM
    (fun t place => do
      match ← bytesOf? (Path.top place).render with
      | some content =>
        pure ((t.makeDirs place.dropLast).put place (renewed known place content time))
      | none => pure t) empty

/-- Brings the files into the state of a tree. -/
def writeTree (before after : FileTree) : IO Unit := do
  for (place, node) in after.nodes do
    match node, before.node? place with
    | .file content _, some (.file old _) =>
      if content != old then IO.FS.writeBinFile (Path.top place).render ⟨content.toArray⟩
    | .file content _, _ =>
      IO.FS.createDirAll (Path.top place.dropLast).render
      IO.FS.writeBinFile (Path.top place).render ⟨content.toArray⟩
    | _, _ => pure ()
  for (place, node) in before.nodes do
    match node, after.node? place with
    | .file _ _, none => IO.FS.removeFile (Path.top place).render
    | _, _ => pure ()

def terminal : Console.Terminal := ⟨false, false, .colourless⟩

def worldOn (t : FileTree) (input : String) : World :=
  ⟨t, "", input.toList, columns, terminal, .ascending, [], 0⟩

def programName : String := "typja"

def conclusion (stop : Stop) : IO UInt32 := do
  match stop.ending programName with
  | .ok (code, text) =>
    IO.eprint text
    pure code.toUInt32
  | .error f =>
    IO.eprintln f.message
    pure 1

/-- Runs a command that may ask. Each time the input ends too early it is given one more line and
runs anew; only what is new is printed. -/
partial def converse (arguments : List String) (t : FileTree) (input : String) (shown : Nat) :
IO UInt32 := do
  let (stop, w) := run programName arguments [] (worldOn t input)
  IO.print (w.output.drop shown)
  (← IO.getStdout).flush
  match stop with
  | .abort =>
    let line ← (← IO.getStdin).getLine
    if line.isEmpty then conclusion stop else converse arguments t (input ++ line) w.output.length
  | stop =>
    writeTree t w.tree
    conclusion stop

/-- Looks at the files again and again. -/
partial def lookAgain (places : List (List String)) (w : Watch) (ts : Times) (known : FileTree)
  (time : Int) :
    IO UInt32 := do
  IO.sleep interval
  let t ← readTree known places time
  match ((Watch.guarded (w.look ts)).run (worldOn t "")).run with
  | (.ok ts, world) =>
    IO.print world.output
    (← IO.getStdout).flush
    lookAgain places w ts t (time + 1)
  | (.error stop, world) =>
    IO.print world.output
    conclusion stop

def watchFiles (root : String) (places : List (List String)) (t : FileTree) : IO UInt32 := do
  match ((Watch.guarded (Watch.start root)).run (worldOn t "")).run with
  | (.ok (w, ts), world) =>
    IO.print world.output
    (← IO.getStdout).flush
    lookAgain places w ts t 1
  | (.error stop, world) =>
    IO.print world.output
    conclusion stop

def requestRoot : Request → Option String
  | .check o => some o.root
  | .init o => some o.root
  | .watch root => some root
  | _ => none

def readsNames : Request → Bool
  | .check _ => true
  | .watch _ => true
  | _ => false

/-- Reads the files that a command line is about and runs it on them. -/
def serve (arguments : List String) : IO UInt32 := do
  let nothing : FileTree := ⟨[], ← currentPlace⟩
  match parse arguments with
  | .error _ => converse arguments nothing "" 0
  | .ok request =>
    let names ← if readsNames request then inputNames else pure []
    let root := nothing.resolve (.ofText ((requestRoot request).getD "."))
    let named := names.map fun n => nothing.resolve (.ofText n)
    let places := (named ++ settingsPlaces root ++ settingsPlaces nothing.here).eraseDups
    let t ← readTree nothing places 0
    match request with
    | .watch root => watchFiles root places t
    | _ => converse arguments t "" 0

end TypedTemplate.Command

def main (arguments : List String) : IO UInt32 := TypedTemplate.Command.serve arguments
