import TypedTemplate.Directive.Parse

/-! Finding the annotation comments of a template. -/
namespace TypedTemplate
open Text

namespace Comment

/-- The text and the body of the annotation comment at the start of a text: `{#`, blanks, the
keyword with its colon, at least one character other than `#`, and `#}`. -/
def atStart? (s : List Char) : Option (List Char × List Char) := do
  let rest ← after? ['{', '#'] s
  let rest ← after? "typja:".toList (trimStart rest)
  let (body, rest) := rest.span (· != '#')
  let rest ← after? ['#', '}'] rest
  if body.isEmpty then none else some (s.take (s.length - rest.length), body)

/-- The annotation comments with their places, from a place at which `skip` characters of a comment
are left. -/
def scanFrom : (skip : Nat) → Position → List Char → List (Position × List Char × List Char)
  | _, _, [] => []
  | skip + 1, p, c :: s => scanFrom skip (p.advance c) s
  | 0, p, c :: s =>
    match atStart? (c :: s) with
    | some found => (p, found) :: scanFrom (found.1.length - 1) (p.advance c) s
    | none => scanFrom 0 (p.advance c) s

def scan (p : Position) (s : List Char) : List (Position × List Char × List Char) := scanFrom 0 p s

structure Failure where
  filename : String
  position : Position
  cause : Directive.Error

def Failure.message (f : Failure) : String :=
  locate unknownFile (some f.position.line) (some f.position.col) f.cause.message

def read (filename : String) (found : Position × List Char × List Char) : Except Failure Comment :=
  match Directive.parse (trim found.2.2) with
  | .ok d => .ok ⟨found.1, String.ofList found.2.1, d⟩
  | .error e => .error ⟨filename, found.1, e⟩

def parseAll (filename : String) (content : String) : Except Failure (List Comment) :=
  (scan .start content.toList).mapM (read filename)

end Comment

end TypedTemplate
