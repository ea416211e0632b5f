import TypedTemplate.Text.Digit
import TypedTemplate.Text.Quoted

/-! What can be wrong with a settings document, and where. -/
namespace TypedTemplate.Toml

abbrev Key := List String

/-- A key as it stands in messages. -/
def Key.render (key : Key) : String :=
  match key with
  | [part] => "(" ++ Text.quoted part ++ ",)"
  | parts => "(" ++ String.intercalate ", " (parts.map Text.quoted) ++ ")"

inductive Cause where
  | statement
  | statementEnd
  | equals
  | keyStart
  | declaredTwice (key : Key)
  | immutable (key : Key)
  | redefined (key : Key)
  | overwritten
  | duplicate (part : String)
  | tableEnd
  | arrayTableEnd
  | arrayOpen
  | inlineOpen
  | backslash
  | hexValue
  | notScalar
  | textOpen
  | illegal (c : Char)
  | expected (mark : String)
  | invalidChar (c : Char)
  | date
  | value
  /-- A decimal number of too many digits. -/
  | digits (count : Nat)

def Cause.message : Cause → String
  | statement => "Invalid statement"
  | statementEnd => "Expected newline or end of document after a statement"
  | equals => "Expected '=' after a key in a key/value pair"
  | keyStart => "Invalid initial character for a key part"
  | declaredTwice key => "Cannot declare " ++ key.render ++ " twice"
  | immutable key => "Cannot mutate immutable namespace " ++ key.render
  | redefined key => "Cannot redefine namespace " ++ key.render
  | overwritten => "Cannot overwrite a value"
  | duplicate part => "Duplicate inline table key " ++ Text.quoted part
  | tableEnd => "Expected ']' at the end of a table declaration"
  | arrayTableEnd => "Expected ']]' at the end of an array declaration"
  | arrayOpen => "Unclosed array"
  | inlineOpen => "Unclosed inline table"
  | backslash => "Unescaped '\\' in a string"
  | hexValue => "Invalid hex value"
  | notScalar => "Escaped character is not a Unicode scalar value"
  | textOpen => "Unterminated string"
  | illegal c => "Illegal character " ++ Text.quoted (String.singleton c)
  | expected mark => "Expected " ++ Text.quoted mark
  | invalidChar c => "Found invalid character " ++ Text.quoted (String.singleton c)
  | date => "Invalid date or datetime"
  | value => "Invalid value"
  | digits count => Text.tooManyDigits count

structure Fault where
  cause : Cause
  rest : List Char

inductive Place where
  | ending
  | within (line column : Nat)

def Place.render : Place → String
  | ending => "end of document"
  | within line column => "line " ++ toString line ++ ", column " ++ toString column

def placeOf (source rest : List Char) : Place :=
  match rest with
  | [] => .ending
  | _ =>
    let front := source.take (source.length - rest.length)
    .within (front.count '\n' + 1) ((front.reverse.takeWhile (· != '\n')).length + 1)

structure Error where
  cause : Cause
  place : Place

def Error.message (e : Error) : String :=
  match e.cause with
  | .digits _ => e.cause.message
  | _ => e.cause.message ++ " (at " ++ e.place.render ++ ")"

end TypedTemplate.Toml
