import TypedTemplate.Text.Quoted
import TypedTemplate.Text.Similar

/-! Command lines: what a user can ask for, and what is wrong with a line that asks for nothing. -/
namespace TypedTemplate.Command

inductive Verb where
  | check
  | init
  | watch
deriving DecidableEq

def Verb.name : Verb → String
  | check => "check"
  | init => "init"
  | watch => "watch"

def Verb.all : List Verb := [.check, .init, .watch]

structure Switch where
  long : String
  short : Option Char
  takesValue : Bool

def rootSwitch : Switch := ⟨"--root", some 'r', true⟩

def helpSwitch : Switch := ⟨"--help", none, false⟩

def versionSwitch : Switch := ⟨"--version", some 'v', false⟩

def mainSwitches : List Switch := [versionSwitch, helpSwitch]

def Verb.switches : Verb → List Switch
  | check => [rootSwitch, ⟨"--fix", some 'f', false⟩, ⟨"--strict", some 's', false⟩, helpSwitch]
  | init => [rootSwitch, ⟨"--force", some 'f', false⟩, helpSwitch]
  | watch => [rootSwitch, helpSwitch]

inductive UsageCause where
  | unknownSwitch (name : String) (close : List String)
  | valueMissing (name : String)
  | valueGiven (name : String)
  | extraArguments (arguments : List String)
  | commandMissing
  | unknownCommand (name : String)

def UsageCause.message : UsageCause → String
  | unknownSwitch name close =>
    "No such option: " ++ name ++
      match close with
      | [] => ""
      | [one] => " Did you mean " ++ one ++ "?"
      | several => " (Possible options: " ++ Text.joinWith ", " several ++ ")"
  | valueMissing name => "Option " ++ Text.quoted name ++ " requires an argument."
  | valueGiven name => "Option " ++ Text.quoted name ++ " does not take a value."
  | extraArguments arguments =>
    "Got unexpected extra argument" ++ (if arguments.length = 1 then "" else "s") ++
      " (" ++ Text.joinWith " " arguments ++ ")"
  | commandMissing => "Missing command."
  | unknownCommand name => "No such command " ++ Text.quoted name ++ "."

def UsageCause.showsUsage : UsageCause → Bool
  | valueMissing _ => false
  | valueGiven _ => false
  | _ => true

/-- An error in the line of a command, or before the command is known. -/
structure UsageError where
  verb : Option Verb
  cause : UsageCause

abbrev Given := Switch × Option String

section

variable (switches : List Switch)

/-- A switch by its long name, with the value behind an equals sign or the next argument. -/
def longSwitch (name : String) (value : Option String) (rest : List String) :
    Except UsageCause (Given × List String) :=
  match switches.find? (·.long == name) with
  | none => .error (.unknownSwitch name (Text.closeTo name (switches.map (·.long))))
  | some s =>
    if s.takesValue then
      match value, rest with
      | some v, rest => .ok ((s, some v), rest)
      | none, v :: rest => .ok ((s, some v), rest)
      | none, [] => .error (.valueMissing name)
    else
      match value with
      | some _ => .error (.valueGiven name)
      | none => .ok ((s, none), rest)

/-- Switches by their letters. A value reaches to the end of the argument, or else is the next
argument. -/
def shortSwitches : List Char → List String → Except UsageCause (List Given × List String)
  | [], rest => .ok ([], rest)
  | c :: cs, rest =>
    let name := String.ofList ['-', c]
    match switches.find? (·.short == some c) with
    | none => .error (.unknownSwitch name [])
    | some s =>
      if s.takesValue then
        match cs, rest with
        | [], [] => .error (.valueMissing name)
        | [], v :: rest => .ok ([(s, some v)], rest)
        | cs, rest => .ok ([(s, some (String.ofList cs))], rest)
      else do
        let (given, rest) ← shortSwitches cs rest
        pure ((s, none) :: given, rest)

def splitValue (argument : String) : String × Option String :=
  match Text.cut? ['='] argument.toList with
  | some (a, b) => (String.ofList a, some (String.ofList b))
  | none => (argument, none)

def switchArgument (argument : String) (rest : List String) :
    Except UsageCause (List Given × List String) :=
  let (name, value) := splitValue argument
  if Text.startsWith argument.toList ['-', '-'] then do
    let (given, rest) ← longSwitch switches name value rest
    pure ([given], rest)
  else shortSwitches switches (argument.toList.drop 1) rest

def isSwitch (argument : String) : Bool := argument.toList.head? == some '-' && argument.length > 1

/-- The switches of a line in their order, and its other arguments. Two dashes end the switches, and
so does the first other argument unless they may be mixed. -/
def readFrom (mixed : Bool) : Nat → List String → Except UsageCause (List Given × List String)
  | 0, rest => .ok ([], rest)
  | _ + 1, [] => .ok ([], [])
  | n + 1, a :: rest =>
    if a == "--" then .ok ([], rest)
    else if isSwitch a then do
      let (given, rest) ← switchArgument switches a rest
      let (more, others) ← readFrom mixed n rest
      pure (given ++ more, others)
    else if mixed then do
      let (more, others) ← readFrom mixed n rest
      pure (more, a :: others)
    else .ok ([], a :: rest)

def readArguments (mixed : Bool) (arguments : List String) :
    Except UsageCause (List Given × List String) :=
  readFrom switches mixed arguments.length arguments

end

structure CheckOptions where
  root : String
  fix : Bool
  strict : Bool

structure InitOptions where
  root : String
  force : Bool

/-- What a line asks for. -/
inductive Request where
  | version
  | help (verb : Option Verb)
  | check (o : CheckOptions)
  | init (o : InitOptions)
  | watch (root : String)

def isOn (given : List Given) (long : String) : Bool := given.any (·.1.long == long)

def rootOf (given : List Given) : String :=
  ((given.filter (·.1.long == "--root")).getLast?.bind (·.2)).getD "."

def requestOf (v : Verb) (given : List Given) : Request :=
  match v with
  | .check => .check ⟨rootOf given, isOn given "--fix", isOn given "--strict"⟩
  | .init => .init ⟨rootOf given, isOn given "--force"⟩
  | .watch => .watch (rootOf given)

/-- Help takes precedence over superfluous arguments. -/
def parseVerb (v : Verb) (arguments : List String) : Except UsageError Request :=
  match readArguments v.switches true arguments with
  | .error cause => .error ⟨some v, cause⟩
  | .ok (given, others) =>
    if isOn given "--help" then .ok (.help (some v))
    else if others.isEmpty then .ok (requestOf v given)
    else .error ⟨some v, .extraArguments others⟩

def mainRequest? (given : List Given) : Option Request :=
  given.head?.map fun g => if g.1.long == "--help" then .help none else .version

/-- A switch where the command should be is read as one once more. -/
def parse (arguments : List String) : Except UsageError Request :=
  match readArguments mainSwitches false arguments with
  | .error cause => .error ⟨none, cause⟩
  | .ok (given, others) =>
    match mainRequest? given, others with
    | some r, _ => .ok r
    | none, [] => .error ⟨none, .commandMissing⟩
    | none, name :: rest =>
      match Verb.all.find? (·.name == name) with
      | some v => parseVerb v rest
      | none =>
        if isSwitch name then
          match readArguments mainSwitches false others with
          | .error cause => .error ⟨none, cause⟩
          | .ok (given, _) =>
            ((mainRequest? given).map .ok).getD (.error ⟨none, .unknownCommand name⟩)
        else .error ⟨none, .unknownCommand name⟩

end TypedTemplate.Command
