import TypedTemplate.Directive.Basic
import TypedTemplate.FileTree.Path
import TypedTemplate.Names
import TypedTemplate.Table

/-! The classes known by name and by module, and the names that a template has imported. -/
namespace TypedTemplate

/-- A class as a template sees it. -/
structure Definition where
  name : String
  fields : Table String
  methods : Option (Table String)
  module : Option String

namespace Definition

def hasField (d : Definition) (k : String) : Bool := d.fields.has k

def field? (d : Definition) (k : String) : Option String := d.fields.find? k

def method? (d : Definition) (k : String) : Option String := d.methods.bind (·.find? k)

def hasMethod (d : Definition) (k : String) : Bool := (d.method? k).isSome

end Definition

inductive Candidate where
  | qualified (name : String)
  | mentioned (text : String)

def Candidate.qualified? : Candidate → Option String
  | qualified n => some n
  | mentioned _ => none

def Candidate.text : Candidate → String
  | qualified n => n
  | mentioned t => t

def Candidate.inFile (name : String) (file : Path) : Candidate :=
  .qualified (file.stem ++ "." ++ name)

/-- An import that binds a name of the `typing` module has no definition. -/
structure Registry where
  types : Table Definition
  modules : Table (Table Definition)
  imported : Table (Option Definition)
  autoImported : Table (Option Definition)
  importedModules : List String
  conflicts : Table (List Candidate)

namespace Registry

/-- Why a name cannot be imported or resolved. -/
inductive Error where
  | noModule (module : String)
  | noTypingName (name : String)
  | noTypeAmong (module name : String) (available : List String)
  | typingNotImported (name : String)
  | noType (module name : String)
  | moduleNotImported (module : String)
  | ambiguous (name : String) (candidates : List String)
  | mentionedOnly
  | undefined (name : String)

def Error.message : Error → String
  | noModule m => "Module '" ++ m ++ "' not found"
  | noTypingName n => "'" ++ n ++ "' is not available in typing module"
  | noTypeAmong m n available =>
    "Module '" ++ m ++ "' has no type '" ++ n ++ "'. Available types: " ++
      Text.joinWith ", " available
  | typingNotImported n =>
    "'" ++ n ++
      "' is not defined. Did you mean to import it from typing?\n\nHint: \x7b# typja:from typing import " ++ n ++
      " #\x7d"
  | noType m n => "Module '" ++ m ++ "' has no type '" ++ n ++ "'"
  | moduleNotImported m => "Module '" ++ m ++ "' is not imported.\n\nHint: \x7b# typja:import " ++
    m ++ " #\x7d"
  | ambiguous n candidates =>
    "Ambiguous type '" ++ n ++ "' found in multiple files.\nUse qualified name: " ++ Text.joinWith
      ", " candidates ++
      "\nOr import explicitly: \x7b# typja:from <module> import " ++ n ++ " #\x7d"
  | mentionedOnly => "a candidate has no qualified name"
  | undefined n =>
    "'" ++ n ++ "' is not defined.\n\nHint: Import it with \x7b# typja:from <module> import " ++
      n ++ " #\x7d"

def empty : Registry := ⟨[], [], [], [], [], []⟩

def registerType (r : Registry) (d : Definition) : Registry :=
  let r := { r with types := r.types.insert d.name d }
  match d.module with
  | none => r
  | some m =>
    if m.isEmpty then r
    else { r with modules := r.modules.insert m (((r.modules.find? m).getD []).insert d.name d) }

/-- The definitions of a module, all of which then belong to it. What the module held before is
dropped. -/
def registerModule (r : Registry) (module : String) (defs : Table Definition) : Registry :=
  let owned := defs.map fun (k, d) => (k, { d with module := some module })
  { r with
    modules := r.modules.insert module owned
    types := owned.foldl (fun t e => t.insert e.2.name e.2) r.types }

def importModule (r : Registry) (module : String) : Except Error Registry :=
  if r.modules.has module || module == "typing" || module == "builtins" then
    .ok { r with importedModules := if r.importedModules.contains module then r.importedModules
                                    else r.importedModules ++ [module] }
  else .error (.noModule module)

def bind (r : Registry) (n : ImportedName) (d : Option Definition) : Registry :=
  { r with imported := r.imported.insert n.bound d }

def bindAll (find : String → Except Error (Option Definition)) (r : Registry) :
    List ImportedName → Registry × Option Error
  | [] => (r, none)
  | n :: ns =>
    match find n.name with
    | .ok d => bindAll find (r.bind n d) ns
    | .error e => (r, some e)

def importFrom (r : Registry) (module : String) (names : List ImportedName) :
    Registry × Option Error :=
  if module == "typing" then
    bindAll (fun n => if isTyping n then .ok none else .error (.noTypingName n)) r names
  else
    match r.modules.find? module with
    | none => (r, some (.noModule module))
    | some defs =>
      let find n := match defs.find? n with
        | some d => .ok (some d)
        | none => .error (.noTypeAmong module n defs.keys)
      bindAll find r names

/-- The definition that a plain or qualified name stands for. -/
def resolveName (r : Registry) (module : Option String) (name : String) :
    Except Error (Option Definition) :=
  if isBuiltin name then .ok none
  else if isTyping name then
    if module == some "typing" || r.imported.has name then .ok none
      else .error (.typingNotImported name)
  else
    match module.filter (!·.isEmpty) with
    | some m =>
      match r.modules.find? m with
      | some defs =>
        match defs.find? name with
        | some d => .ok (some d)
        | none => .error (.noType m name)
      | none => .error (if r.importedModules.contains m then .noModule m else .moduleNotImported m)
    | none =>
      match r.imported.find? name with
      | some d => .ok d
      | none =>
        match r.conflicts.find? name with
        | some (c :: cs) =>
          if c.qualified?.isSome then
            match (c :: cs).mapM Candidate.qualified? with
            | some names => .error (.ambiguous name names)
            | none => .error .mentionedOnly
          else .error (.undefined name)
        | _ => .error (.undefined name)

mutual
/-- The definition of a type. The members of a union must all be known, and the union itself has
no definition. -/
def resolve (r : Registry) : TypeExpr → Except Error (Option Definition)
  | .named _ n m => r.resolveName m n
  | .generic _ n m _ => r.resolveName m n
  | .union _ _ ms => do
    r.resolveMembers ms
    pure none

def resolveMembers (r : Registry) : List TypeExpr → Except Error Unit
  | [] => .ok ()
  | t :: ts => do
    let _ ← r.resolve t
    r.resolveMembers ts
end

def clearImports (r : Registry) : Registry :=
  { r with imported := Table.ofPairs r.autoImported, importedModules := [] }

def autoImport (r : Registry) (name : String) : Registry :=
  { r with autoImported := r.autoImported.insert name (r.types.find? name) }

def moduleTypes (r : Registry) (module : String) : Table Definition :=
  (r.modules.find? module).getD []

end Registry

end TypedTemplate
