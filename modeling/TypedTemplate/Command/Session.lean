import TypedTemplate.Command.Failure

/-! What a command works on, and the steps that it is made of. A step that ends the command keeps
what was printed and written before. -/
namespace TypedTemplate.Command

abbrev Modules := Table (Table (Option Template.Engine))

structure World where
  tree : FileTree
  /-- What was printed so far. -/
  output : String
  /-- What is still to be read from the user. -/
  input : List Char
  /-- The width of the console. -/
  columns : Nat
  terminal : Console.Terminal
  order : SetOrder
  modules : Modules
  now : Nat

abbrev Session := ExceptT Stop (StateM World)

namespace Session

def fail {α : Type} (f : Failure) : Session α := throw (.failure f)

def exit {α : Type} (code : Nat) : Session α := throw (.exit code)

/-- Goes on with a handler after a failure. Other ways to end are not handled. -/
def attempt {α : Type} (body : Session α) (handler : Failure → Session α) : Session α :=
  tryCatch body fun stop =>
    match stop with
    | .failure f => handler f
    | stop => throw stop

def lift {ε α : Type} (wrap : ε → Failure) (r : Except ε α) : Session α :=
  match r with
  | .ok a => pure a
  | .error e => fail (wrap e)

def tree : Session FileTree := do pure (← get).tree

def write (out : Console.Output) : Session Unit :=
  modify fun w => { w with output := w.output ++ String.ofList out.sent }

/-- Prints parts up to the first that cannot be printed, in colours if they are forced. -/
def printWith (forced : Option Bool) (parts : List Console.Part) : Session Unit := do
  let w ← get
  let (out, e) := Console.display (w.terminal.painter? forced) w.columns parts
  write out
  match e with
  | some e => fail (.markup e)
  | none => pure ()

def print (parts : List Console.Part) : Session Unit := printWith none parts

def say (markup : String) : Session Unit := print [.line markup]

/-- A line of the input, if there is one. -/
def readLine : Session (Option (List Char)) := do
  let w ← get
  match w.input with
  | [] => pure none
  | s =>
    set { w with input := (s.dropWhile (· != '\n')).drop 1 }
    pure (some (s.takeWhile (· != '\n')))

/-- Writes a text into a file, through links. A directory cannot be written. -/
def writeFile (path : Path) (text : String) : Session Unit := do
  let w ← get
  if w.tree.isDir path then fail (.file (.isDirectory path))
  else set { w with tree := w.tree.put (w.tree.resolve path) (.file (Text.Utf8.encode text) w.now) }

end Session

end TypedTemplate.Command
