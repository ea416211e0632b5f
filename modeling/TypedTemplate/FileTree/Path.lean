import TypedTemplate.Text.Search

/-! Paths as lists of segments. Empty segments and single dots are dropped, double dots are kept. -/
namespace TypedTemplate

/-- Where a path starts. Exactly two slashes at the front are a top of their own, though they lead
to the same place as one. -/
inductive Anchor where
  | here
  | top
  | share
  deriving DecidableEq

def Anchor.render : Anchor → String
  | here => ""
  | top => "/"
  | share => "//"

structure Path where
  anchor : Anchor
  segments : List String
deriving DecidableEq

namespace Path

/-- The path of a place. -/
def top (segments : List String) : Path := ⟨.top, segments⟩

def relative (segments : List String) : Path := ⟨.here, segments⟩

def absolute (p : Path) : Bool := p.anchor != .here

def anchorOf (s : List Char) : Anchor :=
  match (s.takeWhile (· == '/')).length with
  | 0 => .here
  | 2 => .share
  | _ => .top

def ofText (s : String) : Path :=
  let parts := (Text.pieces ['/'] s.toList).map String.ofList
  ⟨anchorOf s.toList, parts.filter fun p => p != "" && p != "."⟩

def here : Path := relative []

def render (p : Path) : String :=
  match p.anchor, p.segments with
  | .here, [] => "."
  | a, ss => a.render ++ Text.joinWith "/" ss

def name (p : Path) : String := p.segments.getLast?.getD ""

/-- A name in two parts, divided before its last dot, unless that is its first or its last
character. -/
def splitName (name : String) : String × String :=
  match Text.cutLast? '.' name.toList with
  | some (a, b) =>
    if a.isEmpty || b.isEmpty then (name, "") else (String.ofList a, String.ofList ('.' :: b))
  | none => (name, "")

def stem (p : Path) : String := (splitName p.name).1

def suffix (p : Path) : String := (splitName p.name).2

def parent (p : Path) : Path := ⟨p.anchor, p.segments.dropLast⟩

def join (p q : Path) : Path := if q.absolute then q else ⟨p.anchor, p.segments ++ q.segments⟩

def child (p : Path) (name : String) : Path := ⟨p.anchor, p.segments ++ [name]⟩

def relativeTo? (p root : Path) : Option Path :=
  if p.anchor == root.anchor && root.segments.isPrefixOf p.segments then
    some (relative (p.segments.drop root.segments.length))
  else none

end Path

end TypedTemplate
