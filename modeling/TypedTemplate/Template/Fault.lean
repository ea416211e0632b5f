import TypedTemplate.Template.Token
import TypedTemplate.Text.Search

/-! What can be wrong with the text of a template. -/
namespace TypedTemplate.Template
open Text (quoted)

/-- A tag that does not fit, or none where one is needed: the tag met, the tags looked for, whether
an outer block waits for the tag met, and the innermost open block. -/
structure TagFault where
  met : Option String
  wanted : List String
  waitedForOutside : Bool
  innermost : Option String

inductive Fault where
  | expected (want got : String)
  | endedBefore (want : String)
  | unexpected (got : String)
  | unbalanced (close : Operator) (want : Option Operator)
  | strangeChar (c : Char) (offset : Nat)
  | openComment
  | openRaw
  | identifier
  | escape (cause : Text.EscapeError)
  | number (text : String)
  | digits (count : Nat)
  | noExpression (got : String)
  | noTagName
  | noAttribute
  | assignment (form : String)
  | callArguments
  | parameterOrder
  | noCall
  | chainedTests
  | hiddenImport
  | requiredBlock
  | hyphenatedBlock
  | tag (fault : TagFault)

structure Failure where
  line : Nat
  fault : Fault

def orList (names : List String) : String := Text.joinWith " or " (names.map quoted)

def TagFault.message (f : TagFault) : String :=
  (match f.met with
    | some name => "Encountered unknown tag " ++ quoted name ++ "."
    | none => "Unexpected end of template.") ++
  (if f.wanted.isEmpty then ""
    else if f.waitedForOutside then
      " You probably made a nesting mistake. Jinja is expecting this tag, but currently looking for " ++
        orList f.wanted ++ "."
    else " Jinja was looking for the following tags: " ++ orList f.wanted ++ ".") ++
  (match f.innermost with
    | some name => " The innermost block that needs to be closed is " ++ quoted name ++ "."
    | none => "")

def Fault.message : Fault → String
  | expected want got => "expected token " ++ quoted want ++ ", got " ++ quoted got
  | endedBefore want => "unexpected end of template, expected " ++ quoted want ++ "."
  | unexpected got => "unexpected " ++ quoted got
  | unbalanced close none => "unexpected '" ++ close.text ++ "'"
  | unbalanced close (some want) =>
    "unexpected '" ++ close.text ++ "', expected '" ++ want.text ++ "'"
  | strangeChar c offset =>
    "unexpected char " ++ quoted (String.singleton c) ++ " at " ++ toString offset
  | openComment => "Missing end of comment tag"
  | openRaw => "Missing end of raw directive"
  | identifier => "Invalid character in identifier"
  | escape cause => cause.message
  | number text => "unreadable number " ++ text
  | digits count => "a number of " ++ toString count ++ " digits"
  | noExpression got => "Expected an expression, got " ++ quoted got
  | noTagName => "tag name expected"
  | noAttribute => "expected name or number"
  | assignment form => "can't assign to " ++ quoted form
  | callArguments => "invalid syntax for function call expression"
  | parameterOrder => "non-default argument follows default argument"
  | noCall => "expected call"
  | chainedTests => "You cannot chain multiple tests with is"
  | hiddenImport => "names starting with an underline can not be imported"
  | requiredBlock => "Required blocks can only contain comments or whitespace"
  | hyphenatedBlock =>
    "Block names in Jinja have to be valid Python identifiers and may not contain hyphens, use an underscore instead."
  | tag f => f.message

end TypedTemplate.Template
