import TypedTemplate.FileTree.Search

/-! Paths from patterns with wildcards, where names that begin with a dot have to be asked for. -/
namespace TypedTemplate.FileTree

variable (t : FileTree)

def isHidden (s : String) : Bool := s.toList.head? == some '.'

/-- Everything below a path that is not hidden, each before what is in it. The number of nodes
bounds the depth. -/
def visibleFrom (onlyDirs : Bool) : Nat → Path → List Path
  | 0, _ => []
  | n + 1, p =>
    let fit := (t.names p).filter fun s => !isHidden s && (!onlyDirs || t.isDir (p.child s))
    fit.flatMap fun s => p.child s :: visibleFrom onlyDirs n (p.child s)

def visible (onlyDirs : Bool) (p : Path) : List Path :=
  t.visibleFrom onlyDirs (t.nodes.length + 1) p

def expandIn (onlyDirs : Bool) (s : String) (p : Path) : List Path :=
  if s == "**" then (if t.isDir p then [p] else []) ++ t.visible onlyDirs p
  else if isNamePattern s then
    let fit := (t.names p).filter fun n =>
      (isHidden s || !isHidden n) && nameMatches s n && (!onlyDirs || t.isDir (p.child n))
    fit.map p.child
  else if t.hasEntry (p.child s) then [p.child s] else []

def expandFrom (anchor : Anchor) : (onlyDirs : Bool) → List String → List Path
  | _, [] => [⟨anchor, []⟩]
  | onlyDirs, s :: front =>
    let dirs := if front.any isNamePattern then expandFrom anchor true front
      else [⟨anchor, front.reverse⟩]
    dirs.flatMap (t.expandIn onlyDirs s)

/-- The paths that a pattern stands for. The starting directory itself does not count. -/
def expand (pattern : Path) : List Path :=
  let found := t.expandFrom pattern.anchor false pattern.segments.reverse
  let starred :=
    !pattern.absolute && (pattern.segments.head?.any fun s => Text.startsWith s.toList ['*', '*'])
  match found with
  | p :: rest => if starred && p == .here then rest else found
  | [] => []

end TypedTemplate.FileTree
