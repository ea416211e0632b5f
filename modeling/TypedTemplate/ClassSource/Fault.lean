import TypedTemplate.Text.Digit
import TypedTemplate.Text.Escape
import TypedTemplate.Text.Printable

/-! What can be wrong with a source. -/
namespace TypedTemplate.ClassSource

inductive Radix where
  | binary
  | octal
  | decimal
  | hexadecimal
  | imaginary
  deriving DecidableEq

def Radix.name : Radix → String
  | binary => "binary"
  | octal => "octal"
  | decimal => "decimal"
  | hexadecimal => "hexadecimal"
  | imaginary => "imaginary"

/-- What can be wrong with the braces of a formatted literal. -/
inductive BraceFault where
  | loneCloser
  | empty
  | missingBefore (sign : Char)
  | conversion
  | unfinished
  | tooDeep
  | tooManyBrackets
  | openText
  | unmatched (bracket : Char)
  | mismatched (closer opener : Char)
  | backslash
  | comment

inductive ArgumentFault where
  | generator
  | afterKey
  | afterSpread
  | starAfterSpread
  | notAKey
  | constantKey (name : String)

/-- What can be wrong with the parameters of a lambda expression. -/
inductive ParameterFault where
  | plainAfterDefault
  | parenthesized
  | leadingSlash
  | secondSlash
  | slashAfterStar
  | slashBeforeStar
  | bareStar
  | starDefault
  | secondStar
  | spreadDefault
  | afterSpread
  | missingDefault

inductive Fault where
  /-- No rule of the grammar fits, and no likely cause is known. -/
  | general
  | number (radix : Radix)
  | digit (c : Char) (radix : Radix)
  | leadingZero
  | tooManyDigits (count : Nat)
  | openText (triple : Bool) (line : Nat)
  | character (c : Char)
  | unmatched (closer : Char)
  | mismatched (closer opener : Char) (openedAbove : Option Nat)
  | tooManyBrackets
  | neverClosed (opener : Char)
  | continuation
  | nullByte
  | indentation
  | outerIndentation
  | mixedTabs
  | tooManyBlocks
  /-- An escape that cannot be read, by the positions of its first and last character. -/
  | escape (first last : Nat) (cause : Text.EscapeError)
  | byteEscape (position : Nat)
  | wideByte
  | mixedText
  | brace (cause : BraceFault)
  /-- A fault of an expression in braces. -/
  | inBraces (cause : Fault)
  | comma
  | alternative
  | printing (name : String)
  | equality
  | assignment (what : String)
  | target (what : String)
  | naming (what : String)
  | starHere
  | spreadHere
  | starInComprehension
  | spreadInComprehension
  | comprehensionTarget
  | starValue
  | colon
  | value
  | argument (cause : ArgumentFault)
  | parameter (cause : ParameterFault)

def BraceFault.message : BraceFault → String
  | loneCloser => "f-string: single '\x7d' is not allowed"
  | empty => "f-string: empty expression not allowed"
  | missingBefore c => "f-string: expression required before '" ++ String.singleton c ++ "'"
  | conversion => "f-string: invalid conversion character: expected 's', 'r', or 'a'"
  | unfinished => "f-string: expecting '\x7d'"
  | tooDeep => "f-string: expressions nested too deeply"
  | tooManyBrackets => "f-string: too many nested parenthesis"
  | openText => "f-string: unterminated string"
  | unmatched c => "f-string: unmatched '" ++ String.singleton c ++ "'"
  | mismatched c o =>
    "f-string: closing parenthesis '" ++ String.singleton c ++
      "' does not match opening parenthesis '" ++ String.singleton o ++ "'"
  | backslash => "f-string expression part cannot include a backslash"
  | comment => "f-string expression part cannot include '#'"

def ArgumentFault.message : ArgumentFault → String
  | generator => "Generator expression must be parenthesized"
  | afterKey => "positional argument follows keyword argument"
  | afterSpread => "positional argument follows keyword argument unpacking"
  | starAfterSpread => "iterable argument unpacking follows keyword argument unpacking"
  | notAKey => "expression cannot contain assignment, perhaps you meant \"==\"?"
  | constantKey name => "cannot assign to " ++ name

def ParameterFault.message : ParameterFault → String
  | plainAfterDefault => "non-default argument follows default argument"
  | parenthesized => "Lambda expression parameters cannot be parenthesized"
  | leadingSlash => "at least one argument must precede /"
  | secondSlash => "/ may appear only once"
  | slashAfterStar => "/ must be ahead of *"
  | slashBeforeStar => "expected comma between / and *"
  | bareStar => "named arguments must follow bare *"
  | starDefault => "var-positional argument cannot have default value"
  | secondStar => "* argument may appear only once"
  | spreadDefault => "var-keyword argument cannot have default value"
  | afterSpread => "arguments cannot follow var-keyword argument"
  | missingDefault => "expected default value expression"

def codePoint (c : Char) : String :=
  let digits := Nat.toDigits 16 c.toNat
  "U+" ++ String.ofList ((List.replicate (4 - digits.length) '0' ++ digits).map Char.toUpper)

namespace Fault

def message : Fault → String
  | general => "invalid syntax"
  | number r => "invalid " ++ r.name ++ " literal"
  | digit c r => "invalid digit '" ++ String.singleton c ++ "' in " ++ r.name ++ " literal"
  | leadingZero =>
    "leading zeros in decimal integer literals are not permitted; use an 0o prefix for octal integers"
  | tooManyDigits count =>
    Text.tooManyDigits count ++
      " - Consider hexadecimal for huge integer literals to avoid decimal conversion limits."
  | openText triple line =>
    "unterminated " ++ (if triple then "triple-quoted " else "") ++
      "string literal (detected at line " ++ toString line ++ ")"
  | character c =>
    if Text.isPrintable c then "invalid character '" ++ String.singleton c ++ "' (" ++
      codePoint c ++ ")"
    else "invalid non-printable character " ++ codePoint c
  | unmatched c => "unmatched '" ++ String.singleton c ++ "'"
  | mismatched c o above =>
    "closing parenthesis '" ++ String.singleton c ++ "' does not match opening parenthesis '" ++
      String.singleton o ++ "'" ++ above.elim "" fun line => " on line " ++ toString line
  | tooManyBrackets => "too many nested parentheses"
  | neverClosed o => "'" ++ String.singleton o ++ "' was never closed"
  | continuation => "unexpected character after line continuation character"
  | nullByte => "source code string cannot contain null bytes"
  | indentation => "unexpected indent"
  | outerIndentation => "unindent does not match any outer indentation level"
  | mixedTabs => "inconsistent use of tabs and spaces in indentation"
  | tooManyBlocks => "too many levels of indentation"
  | escape first last cause =>
    "(unicode error) 'unicodeescape' codec can't decode bytes in position " ++ toString first ++
      "-" ++ toString last ++ ": " ++ cause.message
  | byteEscape position => "(value error) invalid \\x escape at position " ++ toString position
  | wideByte => "bytes can only contain ASCII literal characters"
  | mixedText => "cannot mix bytes and nonbytes literals"
  | brace cause => cause.message
  | inBraces cause => "f-string: " ++ cause.message
  | comma => "invalid syntax. Perhaps you forgot a comma?"
  | alternative => "expected 'else' after 'if' expression"
  | printing name => "Missing parentheses in call to '" ++ name ++ "'. Did you mean " ++ name ++
    "(...)?"
  | equality => "invalid syntax. Maybe you meant '==' or ':=' instead of '='?"
  | assignment what => "cannot assign to " ++ what ++ " here. Maybe you meant '==' instead of '='?"
  | target what => "cannot assign to " ++ what
  | naming what => "cannot use assignment expressions with " ++ what
  | starHere => "cannot use starred expression here"
  | spreadHere => "cannot use double starred expression here"
  | starInComprehension => "iterable unpacking cannot be used in comprehension"
  | spreadInComprehension => "dict unpacking cannot be used in dict comprehension"
  | comprehensionTarget => "did you forget parentheses around the comprehension target?"
  | starValue => "cannot use a starred expression in a dictionary value"
  | colon => "':' expected after dictionary key"
  | value => "expression expected after dictionary key and ':'"
  | argument cause => cause.message
  | parameter cause => cause.message

/-- A fault in the letters of a source is told wherever it stands. One in its layout, or a source
that ends too early, is told only where the grammar has come that far. -/
def isLexical : Fault → Bool
  | number _ => true
  | digit _ _ => true
  | leadingZero => true
  | tooManyDigits _ => true
  | openText _ _ => true
  | character _ => true
  | unmatched _ => true
  | mismatched _ _ _ => true
  | tooManyBrackets => true
  | nullByte => true
  | _ => false

end Fault

end TypedTemplate.ClassSource
