import TypedTemplate.Position
import TypedTemplate.Template.Parse

/-! Template engines. An engine lives on from text to text, and what it makes of a text may depend
on how it escapes and on all that it has read before. -/
namespace TypedTemplate.Template

/-- How an engine escapes what it prints. -/
inductive Escaping where
  | off
  | on
  /-- As the name of a template asks for. -/
  | byName
deriving DecidableEq

inductive Breakdown where
  | number (text : String)
  | digits (count : Nat)
  | other (kind message : String)

/-- A number that begins with an ASCII digit is wrong as a number, any other one by its first
character. -/
def unreadableNumber (text : String) : String :=
  let cause :=
    match text.toList with
    | c :: _ =>
      if c.toNat < 128 then "invalid decimal literal"
      else "invalid character '" ++ String.singleton c ++ "' (U+" ++
        String.ofList ((Text.hex (if c.toNat < 0x10000 then 4 else 5) c.toNat).map Char.toUpper) ++
          ")"
    | [] => "invalid decimal literal"
  cause ++ " (" ++ unknownFile ++ ", line 1)"

def Breakdown.message : Breakdown → String
  | number text => unreadableNumber text
  | digits count => Text.tooManyDigits count
  | other _ message => message

inductive Reading where
  | tree (stmts : List Stmt)
  | fault (message : String) (line : Int)
  | broken (b : Breakdown)

/-- The texts that were read so far, with their names, and what is made of a text after them. -/
structure Engine where
  escaping : Escaping
  past : List (String × String)
  reads : Escaping → List (String × String) → (filename content : String) → Reading

def Dialect.reading (d : Dialect) (content : String) : Reading :=
  match parse d content with
  | .ok stmts => .tree stmts
  | .error ⟨_, .number text⟩ => .broken (.number text)
  | .error ⟨_, .digits count⟩ => .broken (.digits count)
  | .error f => .fault f.fault.message f.line

def Dialect.engine (d : Dialect) (escaping : Escaping) : Engine :=
  ⟨escaping, [], fun _ _ _ content => d.reading content⟩

namespace Engine

def standard : Engine := Dialect.engine ⟨true, false⟩ .on

def reading (e : Engine) (filename content : String) : Reading :=
  e.reads e.escaping e.past filename content

def after (e : Engine) (filename content : String) : Engine :=
  { e with past := e.past ++ [(filename, content)] }

def escape (e : Engine) : Engine := if e.escaping = .off then { e with escaping := .on } else e

end Engine

end TypedTemplate.Template
