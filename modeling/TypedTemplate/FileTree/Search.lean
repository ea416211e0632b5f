import TypedTemplate.FileTree.Basic
import TypedTemplate.FileTree.NamePattern

/-! Finding files by patterns of paths. -/
namespace TypedTemplate

inductive PatternError where
  | absolute
  | partialStars
  | empty
  deriving DecidableEq

def PatternError.message : PatternError → String
  | absolute => "Non-relative patterns are unsupported"
  | partialStars => "Invalid pattern: '**' can only be an entire path component"
  | empty => "empty pattern"

namespace FileTree

variable (t : FileTree)

/-- What the segments of a pattern select from a directory. Two stars stand for any directories, and
an empty last segment asks for a directory. -/
def select : List String → Path → List Path
  | [], p => [p]
  | s :: rest, p =>
    if s.isEmpty then [p]
    else if s == "**" then ((t.dirs p).flatMap (select rest)).eraseDups
    else if isNamePattern s then
      let fit := (t.names p).filter fun n => nameMatches s n &&
        (rest.isEmpty || t.isDir (p.child n))
      fit.flatMap fun n => select rest (p.child n)
    else
      let q := p.child s
      if if rest.isEmpty then t.has q else t.isDir q then select rest q else []

def patternSegments (pattern : String) : Except PatternError (List String) :=
  let q := Path.ofText pattern
  let segments := if pattern.toList.getLast? == some '/' then q.segments ++ [""] else q.segments
  if q.absolute then .error .absolute
  else if segments.any fun s => s != "**" && Text.occurs ['*', '*'] s.toList
    then .error .partialStars
  else .ok segments

def below (p : Path) (pattern : String) : Except PatternError (List Path) := do
  let segments ← patternSegments pattern
  .ok (if t.isDir p then t.select ("**" :: segments) p else [])

end FileTree

namespace Path

def parts (p : Path) : List String :=
  if p.absolute then p.anchor.render :: p.segments else p.segments

/-- Whether the last segments of a path have the form of a pattern. -/
def fits (p : Path) (pattern : String) : Except PatternError Bool :=
  let q := Path.ofText pattern
  if q.parts.isEmpty then .error .empty
  else if q.absolute && (p.anchor != q.anchor || p.segments.length != q.segments.length)
    then .ok false
  else if q.segments.length > p.parts.length then .ok false
  else .ok ((p.parts.reverse.zip q.segments.reverse).all fun (s, pat) => nameMatches pat s)

def le (p q : Path) : Bool := !decide (q.parts < p.parts)

end Path

def bareFront (s : String) : String :=
  String.ofList (s.toList.dropWhile fun c => c == '.' || c == '/')

namespace FileTree

variable (t : FileTree)

def excludedBy (relative : Path) (pattern : String) : Except PatternError Bool :=
  let s := pattern.toList
  if Text.startsWith s ['*', '*', '/'] && Text.endsWith s ['/', '*', '*'] then
    .ok (relative.segments.contains (String.ofList ((s.drop 3).take (s.length - 6))))
  else relative.fits pattern

def excluded (relative : Path) : List String → Except PatternError Bool
  | [] => .ok false
  | p :: ps => do if ← excludedBy relative p then .ok true else excluded relative ps

def templatesFor (root : Path) (exclude : List String) (pattern : String) :
    Except PatternError (List Path) := do
  let found ← t.below root (bareFront pattern)
  (found.filter t.isFile).filterM fun p => do
    let relative := (p.relativeTo? root).getD p
    .ok (!(← excluded relative exclude))

/-- The files below a directory that one pattern includes and none excludes, in order. -/
def templates (root : Path) (include_ exclude : List String) : Except PatternError (List Path) := do
  if !t.has root then .ok []
  else
    let found ← include_.mapM (t.templatesFor root exclude)
    .ok (found.flatten.eraseDups.mergeSort Path.le)

end FileTree

end TypedTemplate
