import TypedTemplate.Directive.Basic

/-! Reading the body of an annotation comment. The first word decides which directive it is. -/
namespace TypedTemplate.Directive
open Text

/-- Why a directive cannot be read. -/
inductive Error where
  | type (cause : TypeExpr.Error)
  | importModule (text : String)
  | importFrom (text : String)
  | untypedVariable (text : String)
  | namelessVariable
  | untypedFilter (text : String)
  | macroShape (text : String)
  | macroResult (text : String)
  | untypedParameter (text : String)
  | unknown (start : String)

def Error.message : Error → String
  | type cause => cause.message
  | importModule t => "Invalid import statement: " ++ t
  | importFrom t => "Invalid from-import statement: " ++ t
  | untypedVariable t => "Invalid variable declaration: " ++ t
  | namelessVariable => "Variable name cannot be empty"
  | untypedFilter t => "Invalid filter declaration: " ++ t
  | macroShape t => "Invalid macro declaration: " ++ t
  | macroResult t => "Macro must specify return type: " ++ t
  | untypedParameter t => "Parameter must have type annotation: " ++ t
  | unknown t => "Unknown typja directive: " ++ t ++ "..."

def parseType (text : List Char) : Except Error TypeExpr :=
  (TypeExpr.parseChars text).mapError .type

def isNameStart (c : Char) : Bool := c.isAlpha || c == '_'

def isModuleChar (c : Char) : Bool := c.isAlphanum || c == '_' || c == '.'

def isModuleName : List Char → Bool
  | [] => false
  | c :: s => isNameStart c && s.all isModuleChar

def isRelativeModule (s : List Char) : Bool :=
  isModuleName s || (s.head? == some '.' && isModuleName (s.dropWhile (· == '.')))

def afterWord? (word s : List Char) : Option (List Char) := do
  let rest ← after? word s
  if (rest.head?.map isBlank).getD false then some (trimStart rest) else none

def parseImportModule (text : List Char) : Except Error String :=
  match afterWord? "import".toList (trim text) with
  | some m => if isModuleName m then .ok (String.ofList m)
    else .error (.importModule (String.ofList text))
  | none => .error (.importModule (String.ofList text))

def asWord : List Char := [' ', 'a', 's', ' ']

def parseImportedName (part : List Char) : ImportedName :=
  let part := trim part
  match cut? asWord part with
  | some (name, other) => ⟨String.ofList (trim name), some (String.ofList (trim other))⟩
  | none => ⟨String.ofList part, none⟩

/-- The module and the list of names, in the text behind `from`. -/
def importFromParts? (s : List Char) : Option (List Char × List Char) := do
  let rest ← afterWord? "from".toList s
  let (module, rest) := rest.span fun c => !isBlank c
  if isRelativeModule module then
    let names ← afterWord? "import".toList (trimStart rest)
    if names.isEmpty || names.contains '\n' then none else some (module, names)
  else none

def parseImportFrom (text : List Char) : Except Error (String × List ImportedName) :=
  match importFromParts? (trim text) with
  | some (module, names) => .ok (String.ofList module, (pieces [','] names).map parseImportedName)
  | none => .error (.importFrom (String.ofList text))

def parseTypedName (missing : Error) (part : List Char) : Except Error TypedName :=
  match cut? [':'] part with
  | none => .error missing
  | some (name, type) => do
    let type ← parseType type
    pure ⟨String.ofList (trim name), type⟩

def parseVariable (part : List Char) : Except Error TypedName :=
  match cut? [':'] part with
  | some (name, _) =>
    if (trim name).isEmpty then .error .namelessVariable
    else parseTypedName (.untypedVariable (String.ofList part)) part
  | none => .error (.untypedVariable (String.ofList part))

/-- The declarations between commas outside brackets, without those that are blank. -/
def declarationParts (s : List Char) : List (List Char) :=
  ((splitTopOn [','] s).map trim).filter fun part => !part.isEmpty

def parseVariables (body : List Char) : Except Error (List TypedName) :=
  (declarationParts (trim body)).mapM parseVariable

def parseParameter (part : List Char) : Except Error Parameter :=
  let (decl, fallback) :=
    match cut? ['='] part with
    | some (decl, fallback) => (trim decl, some (String.ofList (trim fallback)))
    | none => (part, none)
  do
    let named ← parseTypedName (.untypedParameter (String.ofList decl)) decl
    pure ⟨named.name, named.type, fallback⟩

def arrow : List Char := ['-', '>']

/-- The result type of a signature: what follows the first arrow of the text, provided that an arrow
stands behind the last closing parenthesis. -/
def resultText? (body tail : List Char) : Option (List Char) :=
  if occurs arrow tail then
    match cut? arrow body with
    | some (_, result) => if (trim result).isEmpty then none else some (trim result)
    | none => none
  else none

/-- The parameter list runs from the first opening to the last closing parenthesis. -/
def parseMacro (text : List Char) : Except Error MacroSignature :=
  let body := trim text
  match cut? ['('] body, cutLast? ')' body with
  | some (name, _), some (head, tail) =>
    match resultText? body (')' :: tail) with
    | none => .error (.macroResult (String.ofList body))
    | some result => do
      let params ← (declarationParts (trim (head.drop (name.length + 1)))).mapM parseParameter
      let result ← parseType result
      pure ⟨String.ofList (trim name), params, result⟩
  | _, _ => .error (.macroShape (String.ofList body))

def parseFilter (text : List Char) : Except Error TypedName :=
  let body := trim text
  parseTypedName (.untypedFilter (String.ofList body)) body

def parse (body : List Char) : Except Error Directive :=
  if startsWith body "import ".toList then importModule <$> parseImportModule body
  else if startsWith body "from ".toList then (fun (m, ns) => importFrom m ns) <$>
    parseImportFrom body
  else if startsWith body "var".toList then varTypes <$> parseVariables (body.drop 3)
  else if startsWith body "filter ".toList then filter <$> parseFilter (body.drop 7)
  else if startsWith body "macro ".toList then macroSignature <$> parseMacro (body.drop 6)
  else if body == "ignore".toList || startsWith body "ignore ".toList then .ok ignore
  else .error (.unknown (String.ofList (body.take 20)))

end TypedTemplate.Directive
