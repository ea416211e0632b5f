import TypedTemplate.FileTree.Path
import TypedTemplate.Text.Lines
import TypedTemplate.Text.Utf8

/-! A tree of files as a value. -/
namespace TypedTemplate

/-- A file has the time of its last writing. A directory has the number of times that an entry has
come to it or gone. -/
inductive FileNode where
  | file (content : List UInt8) (time : Int)
  | dir (time : Int)
  | link (target : Path)

/-- Nodes by their absolute segments; the top is always a directory. Paths that are not absolute
start at `here`. -/
structure FileTree where
  nodes : List (List String × FileNode)
  here : List String

namespace FileTree

variable (t : FileTree)

def node? (at_ : List String) : Option FileNode :=
  if at_.isEmpty then some (.dir 0) else t.nodes.lookup at_

/-- The place where segments lead from a directory. Links are followed; the bound ends circles of
them. -/
def walk : Nat → (place segments : List String) → Option (List String)
  | _, place, [] => some place
  | 0, _, _ => none
  | n + 1, place, s :: rest =>
    if s == ".." then walk n place.dropLast rest
    else
      match t.node? (place ++ [s]) with
      | some (.dir _) => walk n (place ++ [s]) rest
      | some (.file _ _) => if rest.isEmpty then some (place ++ [s]) else none
      | some (.link target) =>
        walk n (if target.absolute then [] else place) (target.segments ++ rest)
      | none => none

def start (p : Path) : List String := if p.absolute then [] else t.here

/-- The place that segments name, where all behind what is not there is taken as it is. -/
def resolveFrom : Nat → (place segments : List String) → List String
  | _, place, [] => place
  | 0, place, segments => place ++ segments
  | n + 1, place, s :: rest =>
    if s == ".." then resolveFrom n place.dropLast rest
    else
      match t.node? (place ++ [s]) with
      | some (.link target) =>
        resolveFrom n (if target.absolute then [] else place) (target.segments ++ rest)
      | _ => resolveFrom n (place ++ [s]) rest

def place? (p : Path) : Option (List String) :=
  t.walk (p.segments.length + 256) (t.start p) p.segments

def resolve (p : Path) : List String :=
  t.resolveFrom (p.segments.length + 256) (t.start p) p.segments

def at? (p : Path) : Option FileNode := (t.place? p).bind t.node?

def has (p : Path) : Bool := (t.place? p).isSome

def isDir (p : Path) : Bool :=
  match t.at? p with
  | some (.dir _) => true
  | _ => false

def isFile (p : Path) : Bool :=
  match t.at? p with
  | some (.file _ _) => true
  | _ => false

def hasEntry (p : Path) : Bool :=
  match p.segments.getLast? with
  | none => true
  | some ".." => t.has p
  | some s =>
    match t.place? p.parent with
    | some place => (t.node? (place ++ [s])).isSome
    | none => false

def content? (p : Path) : Option (List UInt8) :=
  match t.at? p with
  | some (.file content _) => some content
  | _ => none

def time? (p : Path) : Option Int :=
  match t.at? p with
  | some (.file _ time) => some time
  | some (.dir time) => some time
  | _ => none

def nameIn (place at_ : List String) : Option String :=
  if at_.dropLast == place then at_.getLast? else none

/-- The names in a directory, in ascending order. -/
def names (p : Path) : List String :=
  match t.place? p with
  | none => []
  | some place =>
    match t.node? place with
    | some (.dir _) =>
      (t.nodes.filterMap fun e => nameIn place e.1).mergeSort fun a b => !decide (b < a)
    | _ => []

def isPlainDir (p : Path) : Bool := t.isDir p && !isLink
where
  isLink : Bool :=
    match t.place? p.parent with
    | some place =>
      match t.node? (place ++ [p.name]) with
      | some (.link _) => true
      | _ => false
    | none => false

def dirsFrom : Nat → Path → List Path
  | 0, _ => []
  | n + 1, p => p :: ((t.names p).filter fun s => t.isPlainDir (p.child s)).flatMap fun s =>
    dirsFrom n (p.child s)

def dirs (p : Path) : List Path := t.dirsFrom (t.nodes.length + 1) p

/-- The text of a file. Every kind of line end is read as a newline. -/
def readText (content : List UInt8) : Except Text.Utf8.Error String := do
  let s ← Text.Utf8.decode content
  .ok (String.ofList (Text.unifyNewlines s))

def touch (at_ : List String) : FileTree :=
  { t with nodes := t.nodes.map fun e =>
      match e with
      | (a, .dir time) => if a == at_ then (a, .dir (time + 1)) else e
      | _ => e }

def put (at_ : List String) (n : FileNode) : FileTree :=
  if t.nodes.any (·.1 == at_)
    then { t with nodes := t.nodes.map fun e => if e.1 == at_ then (at_, n) else e }
  else { t.touch at_.dropLast with nodes := (t.touch at_.dropLast).nodes ++ [(at_, n)] }

def ancestors (at_ : List String) : List (List String) :=
  (List.range at_.length).map fun k => at_.take k

def makeDirs (at_ : List String) : FileTree :=
  (ancestors at_ ++ [at_]).foldl (fun t a => if (t.node? a).isSome then t else t.put a (.dir 0)) t

def erase (at_ : List String) : FileTree :=
  if t.nodes.any (·.1 == at_) then
    { t.touch at_.dropLast with nodes := (t.touch at_.dropLast).nodes.filter fun e => e.1 != at_ }
  else t

end FileTree

end TypedTemplate
