import TypedTemplate.ClassSource.Constant
import TypedTemplate.Text.Word

/-! Handlers of tags: a tag whose name begins with an at sign calls a handler with constants. -/
namespace TypedTemplate.Console

structure HandlerFault where
  /-- The text that should be a constant. -/
  arguments : List Char
  cause : ClassSource.ConstantFault

namespace HandlerFault

/-- The message about parameters as they stand in the tag. -/
def message (parameters : List Char) (f : HandlerFault) : String :=
  let shown := String.ofList (Text.quotedChars parameters)
  match f.cause with
  | .source cause =>
    "error parsing " ++ String.ofList (Text.quotedChars f.arguments) ++ " in " ++ shown ++ "; " ++
      cause.message
  | .unsettled => "error parsing " ++ shown ++ "; malformed node or string"
  | .missingKey => "error parsing " ++ shown ++ "; malformed node or string: None"
  | .unhashable kind => "error parsing " ++ shown ++ "; unhashable type: '" ++ kind ++ "'"

end HandlerFault

def handlerArguments (s : List Char) : List Char :=
  let rest := s.dropWhile fun c => Text.isWord c || c == '.'
  if rest.isEmpty then ['(', ')']
  else if rest.head? == some '(' && rest.getLast? == some ')' && !rest.contains '\n' then rest
  else s

def checkHandler (parameters : List Char) : Except HandlerFault Unit :=
  let arguments := handlerArguments (Text.trim parameters)
  (ClassSource.checkConstant arguments).mapError (⟨arguments, ·⟩)

end TypedTemplate.Console
